import Astron.Util.Datagram
import Mathlib.Data.List.Nodup

set_option autoImplicit false

/- `LoggedEvent` (src/util/EventSender.cpp): the key-value pairs of an event, kept in
insertion order in `m_kv` with `m_keys` giving each key's position there, and `make_datagram`,
which packs them as a MessagePack map of strings. A `std::string` is its bytes; `m_keys`, an
`std::unordered_map`, is a list of entries looked up by key. `Datagram` is not under src/:
`add_uint8` and `add_data` append bytes, and the datagram is its bytes. The MessagePack reading
below follows the msgpack format of the event log (fixmap or map16, fixstr or str16, big-endian
lengths) and is what `make_datagram` is measured against. -/

namespace Astron.EventSender

/-- The bytes of a string literal of the source. -/
def ascii (text : String) : Bytes := text.toList.map fun c => UInt8.ofNat c.toNat

/-- A `LoggedEvent`. -/
structure LoggedEvent where
  keys : List (Bytes × Nat)  -- `m_keys`: the position of each key in `m_kv`
  kv : List (Bytes × Bytes)  -- `m_kv`
deriving DecidableEq, Repr

/-- `m_keys.find(key)`: the position stored for `key`, if any. -/
def findKey (keys : List (Bytes × Nat)) (key : Bytes) : Option Nat :=
  (keys.find? fun entry => entry.1 = key).map Prod.snd

/-- `LoggedEvent::add(key, value)`. -/
def LoggedEvent.add (e : LoggedEvent) (key value : Bytes) : LoggedEvent :=
  match findKey e.keys key with
  | none => ⟨e.keys ++ [(key, e.kv.length)], e.kv ++ [(key, value)]⟩
  | some i => { e with kv := e.kv.set i (key, value) }

/-- An event before its constructor's body runs. -/
def LoggedEvent.empty : LoggedEvent := ⟨[], []⟩

/-- Calls of `add` in order. -/
def LoggedEvent.addAll (e : LoggedEvent) (adds : List (Bytes × Bytes)) : LoggedEvent :=
  adds.foldl (fun e kv => e.add kv.1 kv.2) e

/-- `LoggedEvent()`. -/
def LoggedEvent.unset : LoggedEvent :=
  LoggedEvent.empty.addAll [(ascii "type", ascii "unset"), (ascii "sender", ascii "unset")]

/-- `LoggedEvent(type)`. -/
def LoggedEvent.ofType (type : Bytes) : LoggedEvent :=
  LoggedEvent.empty.addAll [(ascii "type", type), (ascii "sender", ascii "unset")]

/-- `LoggedEvent(type, sender)`. -/
def LoggedEvent.ofTypeSender (type sender : Bytes) : LoggedEvent :=
  LoggedEvent.empty.addAll [(ascii "type", type), (ascii "sender", sender)]

/-- `pack_string(dg, str)`: a fixstr header below 32 bytes, a str16 header (`size >> 8 & 0xFF`
then `size & 0xFF`) otherwise, then the bytes. -/
def packString (str : Bytes) : Bytes :=
  (if str.length < 32 then [UInt8.ofNat (0xa0 + str.length)]
    else [0xda, UInt8.ofNat (str.length / 256 % 256), UInt8.ofNat (str.length % 256)]) ++ str

/-- The loop of `make_datagram` over `m_kv`. -/
def packEntries : List (Bytes × Bytes) → Bytes
  | [] => []
  | (key, value) :: rest => packString key ++ packString value ++ packEntries rest

/-- `LoggedEvent::make_datagram`: a fixmap header below 16 entries, a map16 header otherwise,
then each key and value. -/
def LoggedEvent.makeDatagram (e : LoggedEvent) : Bytes :=
  (if e.kv.length < 16 then [UInt8.ofNat (0x80 + e.kv.length)]
    else [0xde, UInt8.ofNat (e.kv.length / 256 % 256), UInt8.ofNat (e.kv.length % 256)]) ++
    packEntries e.kv

/-- The value of a big-endian 16-bit length. -/
def readBe16 (hi lo : UInt8) : Nat := 256 * hi.toNat + lo.toNat

/-- The first `n` bytes and the rest, when there are `n`. -/
def takeExactly (n : Nat) (bytes : Bytes) : Option (Bytes × Bytes) :=
  if n ≤ bytes.length then some (bytes.take n, bytes.drop n) else none

/-- A fixstr or str16 string: its bytes and what follows. -/
def readStr : Bytes → Option (Bytes × Bytes)
  | b :: rest =>
    if 0xa0 ≤ b.toNat ∧ b.toNat < 0xc0 then takeExactly (b.toNat - 0xa0) rest
    else if b = 0xda then
      match rest with
      | hi :: lo :: rest => takeExactly (readBe16 hi lo) rest
      | _ => none
    else none
  | [] => none

/-- `n` key-value pairs of strings, and what follows. -/
def readEntries : Nat → Bytes → Option (List (Bytes × Bytes) × Bytes)
  | 0, bytes => some ([], bytes)
  | n + 1, bytes =>
    (readStr bytes).bind fun key =>
      (readStr key.2).bind fun value =>
        (readEntries n value.2).map fun rest => ((key.1, value.1) :: rest.1, rest.2)

/-- A fixmap or map16 header: the number of entries, and what follows. -/
def readMapHeader : Bytes → Option (Nat × Bytes)
  | b :: rest =>
    if 0x80 ≤ b.toNat ∧ b.toNat < 0x90 then some (b.toNat - 0x80, rest)
    else if b = 0xde then
      match rest with
      | hi :: lo :: rest => some (readBe16 hi lo, rest)
      | _ => none
    else none
  | [] => none

/-- A whole datagram read as a map of strings, with nothing after it. -/
def decodeMap (bytes : Bytes) : Option (List (Bytes × Bytes)) :=
  (readMapHeader bytes).bind fun header =>
    (readEntries header.1 header.2).bind fun entries =>
      if entries.2 = [] then some entries.1 else none

/-- The distinct keys of a history of adds, in order of first insertion. -/
def firstKeys (adds : List (Bytes × Bytes)) : List Bytes :=
  adds.foldl (fun keys kv => if keys.any (· = kv.1) then keys else keys ++ [kv.1]) []

/-- The value of the most recent add of `key`. -/
def lastValue (adds : List (Bytes × Bytes)) (key : Bytes) : Bytes :=
  adds.foldl (fun value kv => if kv.1 = key then kv.2 else value) []

/-- Each distinct key in order of first insertion, with the value of its most recent add. -/
def expectedEntries (adds : List (Bytes × Bytes)) : List (Bytes × Bytes) :=
  (firstKeys adds).map fun key => (key, lastValue adds key)

theorem uint8_toNat_ofNat {n : Nat} (small : n < 256) : (UInt8.ofNat n).toNat = n := by
  simp only [UInt8.ofNat, UInt8.toNat, BitVec.toNat_ofNat]
  omega

theorem readBe16_bytes {n : Nat} (small : n < 65536) :
    readBe16 (UInt8.ofNat (n / 256 % 256)) (UInt8.ofNat (n % 256)) = n := by
  rw [readBe16, uint8_toNat_ofNat (by omega), uint8_toNat_ofNat (by omega)]
  omega

theorem takeExactly_append (bytes rest : Bytes) :
    takeExactly bytes.length (bytes ++ rest) = some (bytes, rest) := by
  simp [takeExactly]

theorem readStr_cons_fixstr {b : UInt8} (range : 0xa0 ≤ b.toNat ∧ b.toNat < 0xc0)
    (rest : Bytes) : readStr (b :: rest) = takeExactly (b.toNat - 0xa0) rest :=
  if_pos range

theorem readStr_fixstr {n : Nat} (small : n < 32) (rest : Bytes) :
    readStr (UInt8.ofNat (0xa0 + n) :: rest) = takeExactly n rest := by
  have header := uint8_toNat_ofNat (show 0xa0 + n < 256 by omega)
  have range : 0xa0 ≤ (UInt8.ofNat (0xa0 + n)).toNat ∧ (UInt8.ofNat (0xa0 + n)).toNat < 0xc0 := by
    rw [header]; omega
  rw [readStr_cons_fixstr range, header, Nat.add_sub_cancel_left]

theorem readStr_str16 (hi lo : UInt8) (rest : Bytes) :
    readStr (0xda :: hi :: lo :: rest) = takeExactly (readBe16 hi lo) rest :=
  rfl

theorem readStr_packString {str : Bytes} (short : str.length < 65536) (rest : Bytes) :
    readStr (packString str ++ rest) = some (str, rest) := by
  unfold packString
  split_ifs with small
  · rw [List.singleton_append, List.cons_append, readStr_fixstr small, takeExactly_append]
  · simp only [List.cons_append, List.singleton_append, List.nil_append, List.append_assoc]
    rw [readStr_str16, readBe16_bytes short, takeExactly_append]

theorem readEntries_packEntries {entries : List (Bytes × Bytes)}
    (short : ∀ e ∈ entries, e.1.length < 65536 ∧ e.2.length < 65536) (rest : Bytes) :
    readEntries entries.length (packEntries entries ++ rest) = some (entries, rest) := by
  induction entries with
  | nil => rfl
  | cons e entries ih =>
    obtain ⟨keyShort, valueShort⟩ := short e (List.mem_cons_self e entries)
    have tail := ih fun e' mem => short e' (List.mem_cons_of_mem e mem)
    simp only [packEntries, List.length_cons, readEntries, List.append_assoc,
      readStr_packString keyShort, readStr_packString valueShort, Option.some_bind, tail,
      Option.map_some']

theorem readMapHeader_fixmap {b : UInt8} (range : 0x80 ≤ b.toNat ∧ b.toNat < 0x90)
    (rest : Bytes) : readMapHeader (b :: rest) = some (b.toNat - 0x80, rest) :=
  if_pos range

theorem readMapHeader_map16 (hi lo : UInt8) (rest : Bytes) :
    readMapHeader (0xde :: hi :: lo :: rest) = some (readBe16 hi lo, rest) :=
  rfl

theorem decodeMap_makeDatagram {e : LoggedEvent}
    (short : ∀ entry ∈ e.kv, entry.1.length < 65536 ∧ entry.2.length < 65536)
    (few : e.kv.length < 65536) : decodeMap e.makeDatagram = some e.kv := by
  have entries := readEntries_packEntries short []
  rw [List.append_nil] at entries
  unfold decodeMap LoggedEvent.makeDatagram
  split_ifs with small
  · have header := uint8_toNat_ofNat (show 0x80 + e.kv.length < 256 by omega)
    have range : 0x80 ≤ (UInt8.ofNat (0x80 + e.kv.length)).toNat ∧
        (UInt8.ofNat (0x80 + e.kv.length)).toNat < 0x90 := by
      rw [header]; omega
    simp [readMapHeader_fixmap range, header, entries]
  · simp [readMapHeader_map16, readBe16_bytes few, entries]

theorem getElem?_concat_eq_some {α : Type} {l : List α} {a b : α} {i : Nat} :
    (l ++ [a])[i]? = some b ↔ l[i]? = some b ∨ (i = l.length ∧ a = b) := by
  rcases Nat.lt_or_ge i l.length with lt | ge
  · rw [List.getElem?_append_left lt]
    exact ⟨.inl, fun found => found.resolve_right fun ⟨same, _⟩ => by omega⟩
  · rw [List.getElem?_append_right ge, List.getElem?_eq_none ge]
    rcases Nat.eq_or_lt_of_le ge with same | more
    · subst same
      simp
    · rw [List.getElem?_eq_none (by simp only [List.length_singleton]; omega)]
      simp only [reduceCtorEq, false_iff, false_or, not_and]
      exact fun same => absurd same (by omega)

theorem set_of_getElem? {α : Type} {l : List α} {i : Nat} {a : α} (found : l[i]? = some a) :
    l.set i a = l := by
  apply List.ext_getElem?
  intro j
  rw [List.getElem?_set]
  split_ifs with same inside
  · rw [← same, found]
  · rw [← same]
    exact (List.getElem?_eq_none (by omega)).symm
  · rfl

theorem set_map_update {keys : List Bytes} (distinct : keys.Nodup) {i : Nat} {key : Bytes}
    (found : keys[i]? = some key) (value : Bytes) (f : Bytes → Bytes) :
    (keys.map fun k => (k, f k)).set i (key, value) =
      keys.map fun k => (k, if key = k then value else f k) := by
  induction keys generalizing i with
  | nil => cases found
  | cons k keys ih =>
    obtain ⟨outside, distinct⟩ := List.nodup_cons.mp distinct
    cases i with
    | zero =>
      obtain rfl : k = key := by simpa using found
      simp only [List.map_cons, List.set_cons_zero, if_true, List.cons.injEq, true_and]
      exact List.map_congr_left fun k' mem => by
        rw [if_neg fun same : k = k' => outside (same ▸ mem)]
    | succ i =>
      have found : keys[i]? = some key := by simpa using found
      have differ : key ≠ k := fun same : key = k => outside (same ▸ List.getElem?_mem found)
      simp only [List.map_cons, List.set_cons_succ, if_neg differ, ih distinct found]

theorem findKey_append (keys : List (Bytes × Nat)) (key : Bytes) (n : Nat) (k : Bytes) :
    findKey (keys ++ [(key, n)]) k = (findKey keys k).or (if key = k then some n else none) := by
  unfold findKey
  rw [List.find?_append]
  cases keys.find? (fun entry => entry.1 = k) <;> by_cases same : key = k <;> simp [same]

theorem firstKeys_append (adds : List (Bytes × Bytes)) (kv : Bytes × Bytes) :
    firstKeys (adds ++ [kv]) =
      if (firstKeys adds).any (· = kv.1) then firstKeys adds else firstKeys adds ++ [kv.1] := by
  simp only [firstKeys, List.foldl_append, List.foldl_cons, List.foldl_nil]

theorem lastValue_append (adds : List (Bytes × Bytes)) (kv : Bytes × Bytes) (key : Bytes) :
    lastValue (adds ++ [kv]) key = if kv.1 = key then kv.2 else lastValue adds key := by
  simp only [lastValue, List.foldl_append, List.foldl_cons, List.foldl_nil]

theorem map_fst_expectedEntries (adds : List (Bytes × Bytes)) :
    (expectedEntries adds).map Prod.fst = firstKeys adds := by
  simp [expectedEntries, Function.comp_def]

/-- What an event holds after a history of adds: `m_kv` holds no key twice, `m_keys` gives each
key's position in `m_kv`, and `m_kv` holds the expected entries. -/
structure Holds (adds : List (Bytes × Bytes)) (e : LoggedEvent) : Prop where
  nodup : (e.kv.map Prod.fst).Nodup
  position : ∀ key i, findKey e.keys key = some i ↔ (e.kv.map Prod.fst)[i]? = some key
  entries : e.kv = expectedEntries adds

theorem Holds.empty : Holds [] LoggedEvent.empty :=
  ⟨List.nodup_nil, fun key i => by simp [findKey, LoggedEvent.empty], rfl⟩

theorem Holds.add_new {adds : List (Bytes × Bytes)} {e : LoggedEvent} (holds : Holds adds e)
    {key : Bytes} (missing : findKey e.keys key = none) (value : Bytes) :
    Holds (adds ++ [(key, value)]) ⟨e.keys ++ [(key, e.kv.length)], e.kv ++ [(key, value)]⟩ := by
  have absent : key ∉ e.kv.map Prod.fst := fun mem => by
    obtain ⟨i, found⟩ := List.mem_iff_getElem?.mp mem
    rw [← holds.position, missing] at found
    cases found
  have keysEq : e.kv.map Prod.fst = firstKeys adds := by
    rw [holds.entries, map_fst_expectedEntries]
  have absent' : key ∉ firstKeys adds := keysEq ▸ absent
  have fresh : (firstKeys adds).any (· = key) = false :=
    List.any_eq_false.mpr fun k mem same => absent' (of_decide_eq_true same ▸ mem)
  refine ⟨?_, fun k i => ?_, ?_⟩
  · rw [List.map_append, List.nodup_append]
    exact ⟨holds.nodup, List.nodup_singleton _, List.disjoint_singleton.mpr absent⟩
  · rw [findKey_append, List.map_append, List.map_singleton, getElem?_concat_eq_some,
      List.length_map, ← holds.position]
    cases found : findKey e.keys k with
    | some j =>
      have differ : key ≠ k := fun same => by
        subst same
        rw [missing] at found
        cases found
      simp [differ]
    | none => by_cases same : key = k <;> simp [same, eq_comm]
  · rw [holds.entries, expectedEntries, expectedEntries, firstKeys_append, fresh]
    simp only [Bool.false_eq_true, if_false, List.map_append, List.map_singleton,
      lastValue_append, if_pos rfl]
    congr 1
    refine List.map_congr_left fun k mem => ?_
    rw [if_neg fun same : key = k => absent' (same ▸ mem)]

theorem Holds.add_present {adds : List (Bytes × Bytes)} {e : LoggedEvent} (holds : Holds adds e)
    {key : Bytes} {i : Nat} (found : findKey e.keys key = some i) (value : Bytes) :
    Holds (adds ++ [(key, value)]) { e with kv := e.kv.set i (key, value) } := by
  have atKey := (holds.position key i).mp found
  have sameKeys : (e.kv.set i (key, value)).map Prod.fst = e.kv.map Prod.fst := by
    rw [List.map_set, set_of_getElem? atKey]
  have present : (firstKeys adds).any (· = key) = true := by
    rw [← map_fst_expectedEntries, ← holds.entries]
    simpa using List.getElem?_mem atKey
  refine ⟨sameKeys ▸ holds.nodup, fun k j => sameKeys ▸ holds.position k j, ?_⟩
  have distinct : (firstKeys adds).Nodup := map_fst_expectedEntries adds ▸ holds.entries ▸ holds.nodup
  have atFirst : (firstKeys adds)[i]? = some key :=
    map_fst_expectedEntries adds ▸ holds.entries ▸ atKey
  rw [holds.entries, expectedEntries, set_map_update distinct atFirst, expectedEntries,
    firstKeys_append, present, if_pos rfl]
  simp only [lastValue_append]

theorem Holds.add {adds : List (Bytes × Bytes)} {e : LoggedEvent} (holds : Holds adds e)
    (key value : Bytes) : Holds (adds ++ [(key, value)]) (e.add key value) := by
  unfold LoggedEvent.add
  split
  · exact holds.add_new ‹_› value
  · exact holds.add_present ‹_› value

theorem Holds.addAll {adds : List (Bytes × Bytes)} {e : LoggedEvent} (holds : Holds adds e)
    (more : List (Bytes × Bytes)) : Holds (adds ++ more) (e.addAll more) := by
  induction more generalizing adds e with
  | nil => simpa [LoggedEvent.addAll] using holds
  | cons kv more ih =>
    simpa [LoggedEvent.addAll] using ih (holds.add kv.1 kv.2)

theorem lastValue_length_lt {adds : List (Bytes × Bytes)}
    (short : ∀ kv ∈ adds, kv.2.length < 65536) (key : Bytes) :
    (lastValue adds key).length < 65536 := by
  induction adds using List.reverseRecOn with
  | nil => exact Nat.zero_lt_succ _
  | append_singleton adds kv ih =>
    rw [lastValue_append]
    split
    · exact short kv (List.mem_append_right _ (List.mem_singleton_self kv))
    · exact ih fun kv' mem => short kv' (List.mem_append_left _ mem)

theorem mem_firstKeys {adds : List (Bytes × Bytes)} {key : Bytes} (mem : key ∈ firstKeys adds) :
    ∃ kv ∈ adds, kv.1 = key := by
  induction adds using List.reverseRecOn with
  | nil => cases mem
  | append_singleton adds kv ih =>
    have earlier : key ∈ firstKeys adds → ∃ kv' ∈ adds ++ [kv], kv'.1 = key := fun mem =>
      let ⟨kv', found, same⟩ := ih mem
      ⟨kv', List.mem_append_left _ found, same⟩
    rw [firstKeys_append] at mem
    split at mem
    · exact earlier mem
    · rcases List.mem_append.mp mem with mem | mem
      · exact earlier mem
      · exact ⟨kv, List.mem_append_right _ (List.mem_singleton_self kv),
          (List.mem_singleton.mp mem).symm⟩

/-- After any history of adds from the empty maps, so after any constructor and the adds that
follow it, `m_kv` never holds a key twice and `m_keys` gives each key's position in `m_kv`. When
every key and value is shorter than 65536 bytes and there are fewer than 65536 distinct keys,
`make_datagram` reads back as a fixmap or map16 of fixstr or str16 strings whose entries are the
distinct keys in order of first insertion, each with the value of its most recent add. -/
theorem makeDatagram_entries (adds : List (Bytes × Bytes))
    (short : ∀ kv ∈ adds, kv.1.length < 65536 ∧ kv.2.length < 65536)
    (few : (firstKeys adds).length < 65536) :
    ((LoggedEvent.empty.addAll adds).kv.map Prod.fst).Nodup ∧
      (∀ key i, findKey (LoggedEvent.empty.addAll adds).keys key = some i ↔
        ((LoggedEvent.empty.addAll adds).kv.map Prod.fst)[i]? = some key) ∧
      decodeMap (LoggedEvent.empty.addAll adds).makeDatagram = some (expectedEntries adds) := by
  have holds := Holds.empty.addAll adds
  rw [List.nil_append] at holds
  refine ⟨holds.nodup, holds.position, ?_⟩
  rw [← holds.entries]
  refine decodeMap_makeDatagram (fun entry mem => ?_) (by
    rw [holds.entries, expectedEntries, List.length_map]; exact few)
  rw [holds.entries, expectedEntries] at mem
  obtain ⟨key, keyMem, rfl⟩ := List.mem_map.mp mem
  obtain ⟨kv, added, same⟩ := mem_firstKeys keyMem
  exact ⟨same ▸ (short kv added).1, lastValue_length_lt (fun kv mem => (short kv mem).2) key⟩

/-- `LoggedEvent("log")`, then adds of `msg` and of `type` again: the datagram holds `type`
with its new value first, then `sender` and `msg`. -/
theorem makeDatagram_entries_overwrite :
    (LoggedEvent.ofType (ascii "log")).addAll [(ascii "msg", ascii "hi"), (ascii "type", ascii "x")] =
      LoggedEvent.empty.addAll [(ascii "type", ascii "log"), (ascii "sender", ascii "unset"),
        (ascii "msg", ascii "hi"), (ascii "type", ascii "x")] ∧
    decodeMap (LoggedEvent.empty.addAll [(ascii "type", ascii "log"),
        (ascii "sender", ascii "unset"), (ascii "msg", ascii "hi"), (ascii "type", ascii "x")]).makeDatagram =
      some (expectedEntries [(ascii "type", ascii "log"), (ascii "sender", ascii "unset"),
        (ascii "msg", ascii "hi"), (ascii "type", ascii "x")]) ∧
    expectedEntries [(ascii "type", ascii "log"), (ascii "sender", ascii "unset"),
        (ascii "msg", ascii "hi"), (ascii "type", ascii "x")] =
      [(ascii "type", ascii "x"), (ascii "sender", ascii "unset"), (ascii "msg", ascii "hi")] :=
  ⟨rfl, (makeDatagram_entries _ (by decide) (by decide)).2.2, by decide⟩

end Astron.EventSender

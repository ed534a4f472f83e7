import Astron.Util.Datagram

set_option autoImplicit false

/- One call of `MessageDirector::process_datagram` (src/messagedirector/MessageDirector.cpp):
decode the receiver header, look the receivers up, erase the origin, snapshot, and call
`handle_datagram` on each snapshot target that is not terminated when its turn comes, each with
a fresh iterator just past the header; then forward upstream and, in non-threaded mode, run
`process_terminates`. The subscription index behind `lookup_channels` and the participants'
handlers are not under src/: they are parameters, and a handler may change which participants
are terminated. -/

namespace Astron.MessageDirector

/-- The receiver loop of `process_datagram`: `count` channels read one after another. -/
def readChannels (dg : Bytes) : Nat → Nat → Option (List Nat × Nat)
  | 0, offset => some ([], offset)
  | count + 1, offset =>
    match readChannel dg offset with
    | none => none
    | some (channel, next) =>
      match readChannels dg count next with
      | none => none
      | some (channels, last) => some (channel :: channels, last)

/-- The header of `process_datagram`: a `uint8` receiver count, then the channels, and
`dgi.tell()` after them. `none` is the `DatagramIteratorEOF` the header's catch handles. -/
def readHeader (dg : Bytes) : Option (List Nat × Nat) :=
  match readUint8 dg 0 with
  | none => none
  | some (count, offset) => readChannels dg count offset

/-- The length of the header that a datagram's first byte announces. -/
def headerSize (dg : Bytes) : Nat := 1 + channelSize * (dg.headD 0).toNat

/-- An `std::unordered_set` of participants, in its iteration order. -/
structure ParticipantSet (P : Type) where
  elems : List P
  nodup : elems.Nodup

/-- The participants `process_datagram` calls into, in a world `W` that their handlers change.
`isTerminated w q` is `q->is_terminated()`; `handleDatagram q dg offset w` runs
`q->handle_datagram(dg, DatagramIterator(dg, offset))` and gives the world after it and whether
it raised `DatagramIteratorEOF`. -/
structure Participants (P W : Type) where
  isTerminated : W → P → Bool
  handleDatagram : P → Bytes → Nat → W → W × Bool

/-- What `process_datagram` does that others observe, in order. -/
inductive Effect (P : Type) where
  | skip (target : P)  -- A snapshot target found terminated and skipped
  | handle (target : P) (offset : Nat)
  | upstream  -- `m_upstream->handle_datagram(dg)`
  | terminates  -- `process_terminates()`
deriving DecidableEq, Repr

variable {P W : Type}

/-- The fanout loop over the snapshot `participants_to_notify`, with the effects, the world
after, and whether a handler raised and the catch returned from `process_datagram`. -/
def fanout (parts : Participants P W) (dg : Bytes) (offset : Nat) :
    List P → W → List (Effect P) × W × Bool
  | [], w => ([], w, false)
  | q :: rest, w =>
    if parts.isTerminated w q then
      let next := fanout parts dg offset rest w
      (.skip q :: next.1, next.2)
    else
      let handled := parts.handleDatagram q dg offset w
      if handled.2 then ([.handle q offset], handled.1, true)
      else
        let next := fanout parts dg offset rest handled.1
        (.handle q offset :: next.1, next.2)

/-- `receiving_participants` after `erase(p)`, in iteration order. -/
def receivers [DecidableEq P] (found : ParticipantSet P) : Option P → List P
  | none => found.elems
  | some p => found.elems.erase p

/-- `MessageDirector::process_datagram(p, dg)` from world `w`: its effects in order and the
world after. `hasUpstream` is `m_upstream != nullptr`; `threaded` is `!m_thread_pool.empty()`. -/
def processDatagram [DecidableEq P] (parts : Participants P W) (lookupChannels : List Nat → ParticipantSet P)
    (hasUpstream threaded : Bool) (p : Option P) (dg : Bytes) (w : W) : List (Effect P) × W :=
  match readHeader dg with
  | none => ([], w)
  | some (channels, offset) =>
    let delivered := fanout parts dg offset (receivers (lookupChannels channels) p) w
    if delivered.2.2 then (delivered.1, delivered.2.1)
    else
      (delivered.1 ++ (if p.isSome && hasUpstream then [.upstream] else []) ++
        (if threaded then [] else [.terminates]), delivered.2.1)

/-- The fanout as the spec describes it: the targets in order, each exactly once; a target
terminated at its turn is skipped, any other gets one `handle_datagram` with an iterator at
`offset`, and the world moves on with what its handler did. -/
inductive Visits (parts : Participants P W) (dg : Bytes) (offset : Nat) :
    List P → W → List (Effect P) → W → Prop
  | nil (w : W) : Visits parts dg offset [] w [] w
  | skip {q : P} {rest : List P} {w w' : W} {effects : List (Effect P)}
      (terminated : parts.isTerminated w q = true)
      (next : Visits parts dg offset rest w effects w') :
      Visits parts dg offset (q :: rest) w (.skip q :: effects) w'
  | handle {q : P} {rest : List P} {w w' : W} {effects : List (Effect P)}
      (live : parts.isTerminated w q = false)
      (next : Visits parts dg offset rest (parts.handleDatagram q dg offset w).1 effects w') :
      Visits parts dg offset (q :: rest) w (.handle q offset :: effects) w'

theorem readChannels_some (dg : Bytes) (count : Nat) {offset : Nat}
    (fits : offset + channelSize * count ≤ dg.length) :
    ∃ channels, readChannels dg count offset = some (channels, offset + channelSize * count) := by
  induction count generalizing offset with
  | zero => exact ⟨[], rfl⟩
  | succ count ih =>
    obtain ⟨channels, rest⟩ :=
      @ih (offset + channelSize) (by rw [Nat.mul_succ] at fits; omega)
    refine ⟨leValue ((dg.drop offset).take channelSize) :: channels, ?_⟩
    rw [readChannels, readChannel, if_pos (by rw [Nat.mul_succ] at fits; omega)]
    simp only [rest, Nat.mul_succ, Nat.add_assoc, Nat.add_comm channelSize]

theorem readChannels_none (dg : Bytes) (count : Nat) {offset : Nat} (within : offset ≤ dg.length)
    (short : dg.length < offset + channelSize * count) : readChannels dg count offset = none := by
  induction count generalizing offset with
  | zero => omega
  | succ count ih =>
    rw [readChannels, readChannel]
    split_ifs with fits
    · simp only [ih fits (by rw [Nat.mul_succ] at short; omega)]
    · rfl

theorem readHeader_none {dg : Bytes} (short : dg.length < headerSize dg) : readHeader dg = none := by
  match dg with
  | [] => rfl
  | b :: rest =>
    simp only [headerSize, List.headD_cons] at short
    exact readChannels_none _ _ (by simp) (by omega)

theorem readHeader_some {dg : Bytes} (fits : headerSize dg ≤ dg.length) :
    ∃ channels, readHeader dg = some (channels, headerSize dg) := by
  match dg with
  | [] => simp [headerSize] at fits
  | b :: rest => exact readChannels_some _ _ fits

theorem mem_receivers [DecidableEq P] (found : ParticipantSet P) (p : Option P) (q : P) :
    q ∈ receivers found p ↔ q ∈ found.elems ∧ p ≠ some q := by
  cases p with
  | none => simp [receivers]
  | some p =>
    rw [receivers, found.nodup.mem_erase_iff]
    simp only [ne_eq, Option.some.injEq]
    exact ⟨fun ⟨other, mem⟩ => ⟨mem, fun same => other same.symm⟩,
      fun ⟨mem, other⟩ => ⟨fun same => other same.symm, mem⟩⟩

theorem receivers_nodup [DecidableEq P] (found : ParticipantSet P) (p : Option P) : (receivers found p).Nodup := by
  cases p with
  | none => exact found.nodup
  | some p => exact found.nodup.erase p

theorem fanout_visits (parts : Participants P W) (dg : Bytes) (offset : Nat)
    (neverRaises : ∀ q d o w, (parts.handleDatagram q d o w).2 = false) (targets : List P) (w : W) :
    Visits parts dg offset targets w (fanout parts dg offset targets w).1
        (fanout parts dg offset targets w).2.1 ∧
      (fanout parts dg offset targets w).2.2 = false := by
  induction targets generalizing w with
  | nil => exact ⟨.nil w, rfl⟩
  | cons q rest ih =>
    cases terminated : parts.isTerminated w q
    · simp only [fanout, terminated, neverRaises, Bool.false_eq_true, if_false]
      exact ⟨.handle terminated (ih _).1, (ih _).2⟩
    · simp only [fanout, terminated, if_true]
      exact ⟨.skip terminated (ih w).1, (ih w).2⟩

/-- `process_datagram` on a datagram too short for its header has no effect at all. Otherwise,
when no handler raises, it visits every participant that `lookup_channels` found, origin
erased, exactly once, calling `handle_datagram` with an iterator just past the header on those
not terminated at their turn, then forwards upstream exactly when the origin is a participant
and an upstream exists. -/
theorem processDatagram_delivers [DecidableEq P] (parts : Participants P W)
    (lookupChannels : List Nat → ParticipantSet P) (hasUpstream threaded : Bool) (p : Option P)
    (dg : Bytes) (w : W) :
    (dg.length < headerSize dg →
      processDatagram parts lookupChannels hasUpstream threaded p dg w = ([], w)) ∧
    (headerSize dg ≤ dg.length → (∀ q d o w, (parts.handleDatagram q d o w).2 = false) →
      ∃ channels visits w', readHeader dg = some (channels, headerSize dg) ∧
        (receivers (lookupChannels channels) p).Nodup ∧
        (∀ q, q ∈ receivers (lookupChannels channels) p ↔
          q ∈ (lookupChannels channels).elems ∧ p ≠ some q) ∧
        Visits parts dg (headerSize dg) (receivers (lookupChannels channels) p) w visits w' ∧
        processDatagram parts lookupChannels hasUpstream threaded p dg w =
          (visits ++ (if p.isSome && hasUpstream then [.upstream] else []) ++
            (if threaded then [] else [.terminates]), w')) := by
  refine ⟨fun short => by rw [processDatagram, readHeader_none short], fun fits neverRaises => ?_⟩
  obtain ⟨channels, header⟩ := readHeader_some fits
  obtain ⟨visits, aborted⟩ := fanout_visits parts dg (headerSize dg) neverRaises
    (receivers (lookupChannels channels) p) w
  refine ⟨channels, _, _, header, receivers_nodup _ p, mem_receivers _ p, visits, ?_⟩
  simp only [processDatagram, header, aborted, Bool.false_eq_true, if_false]

/-- Participants 0 and 1 are found for channel 5 and neither is terminated; participant 0 sends a
one-channel datagram in threaded mode with an upstream: only participant 1 gets it, at offset 9,
and the datagram goes upstream. -/
theorem processDatagram_delivers_to_other :
    let parts : Participants Nat Unit := ⟨fun _ _ => false, fun _ _ _ w => (w, false)⟩
    let lookup : List Nat → ParticipantSet Nat := fun _ => ⟨[0, 1], by decide⟩
    let dg : Bytes := [1, 5, 0, 0, 0, 0, 0, 0, 0, 42]
    (∃ channels visits w', readHeader dg = some (channels, headerSize dg) ∧
      Visits parts dg (headerSize dg) (receivers (lookup channels) (some 0)) () visits w' ∧
      processDatagram parts lookup true true (some 0) dg () = (visits ++ [.upstream], w')) ∧
    processDatagram parts lookup true true (some 0) dg () = ([.handle 1 9, .upstream], ()) := by
  intro parts lookup dg
  obtain ⟨channels, visits, w', header, -, -, visited, result⟩ :=
    (processDatagram_delivers parts lookup true true (some 0) dg ()).2 (by decide)
      fun _ _ _ _ => rfl
  exact ⟨⟨channels, visits, w', header, visited, by simpa using result⟩, rfl⟩

/-- The same participants, where the handler of each member of `failing` raises
`DatagramIteratorEOF` after doing its work and every other handler returns. -/
def Participants.withFailing (parts : Participants P W) (failing : P → Bool) :
    Participants P W :=
  ⟨parts.isTerminated, fun q dg offset w => ((parts.handleDatagram q dg offset w).1, failing q)⟩

/-- Whether an effect is a `handle_datagram` on a member of `failing`. -/
def Effect.fails (failing : P → Bool) : Effect P → Bool
  | .handle q _ => failing q
  | _ => false

/-- The effects up to and including the first `handle_datagram` on a member of `failing`. -/
def cutAtFailure (failing : P → Bool) : List (Effect P) → List (Effect P)
  | [] => []
  | e :: rest => if e.fails failing then [e] else e :: cutAtFailure failing rest

theorem fanout_withFailing (parts : Participants P W) (failing : P → Bool) (dg : Bytes)
    (offset : Nat) (targets : List P) (w : W) (tail : List (Effect P)) :
    cutAtFailure failing
        ((fanout (parts.withFailing fun _ => false) dg offset targets w).1 ++ tail) =
      (fanout (parts.withFailing failing) dg offset targets w).1 ++
        (if (fanout (parts.withFailing failing) dg offset targets w).2.2 then []
          else cutAtFailure failing tail) := by
  induction targets generalizing w with
  | nil => rfl
  | cons q rest ih =>
    by_cases terminated : parts.isTerminated w q
    · simp only [fanout, Participants.withFailing, terminated, if_true, List.cons_append,
        cutAtFailure, Effect.fails, Bool.false_eq_true, if_false]
      exact congrArg _ (ih w)
    · cases fails : failing q
      · simp only [fanout, Participants.withFailing, terminated, fails, Bool.false_eq_true,
          if_false, List.cons_append, cutAtFailure, Effect.fails]
        exact congrArg _ (ih _)
      · simp [fanout, Participants.withFailing, terminated, fails, cutAtFailure, Effect.fails]

/-- A `DatagramIteratorEOF` out of one handler ends the whole call: whatever set of handlers
raises, `process_datagram`'s effects are those it has when none raises, cut right after the
first delivery to a raising handler. The later targets get nothing, and neither the upstream
forward nor `process_terminates` happens. -/
theorem processDatagram_withFailing [DecidableEq P] (parts : Participants P W)
    (failing : P → Bool) (lookupChannels : List Nat → ParticipantSet P)
    (hasUpstream threaded : Bool) (p : Option P) (dg : Bytes) (w : W) :
    (processDatagram (parts.withFailing failing) lookupChannels hasUpstream threaded p dg w).1 =
      cutAtFailure failing (processDatagram (parts.withFailing fun _ => false) lookupChannels
        hasUpstream threaded p dg w).1 := by
  unfold processDatagram
  cases readHeader dg with
  | none => rfl
  | some header =>
    have clean := (fanout_visits (parts.withFailing fun _ => false) dg header.2 (fun _ _ _ _ => rfl)
      (receivers (lookupChannels header.1) p) w).2
    have tail : ∀ up terminates : Bool, cutAtFailure failing
        ((if up then [Effect.upstream] else []) ++ (if terminates then [] else [.terminates])) =
        (if up then [.upstream] else []) ++ (if terminates then [] else [.terminates]) := by
      intro up terminates
      cases up <;> cases terminates <;> rfl
    simp only [clean, Bool.false_eq_true, if_false, List.append_assoc, fanout_withFailing]
    split
    · exact (List.append_nil _).symm
    · rw [tail]

/-- Participants 0 and 1 receive a datagram from participant 2 on a director with an
upstream, in non-threaded mode. When 0's handler raises `DatagramIteratorEOF`, 1 gets nothing,
the datagram is not forwarded upstream and `process_terminates` does not run. -/
theorem processDatagram_failure_ends_fanout :
    let parts : Participants Nat Unit := ⟨fun _ _ => false, fun _ _ _ w => (w, false)⟩
    let found : List Nat → ParticipantSet Nat := fun _ => ⟨[0, 1], by decide⟩
    let dg : Bytes := [1, 100, 0, 0, 0, 0, 0, 0, 0]
    processDatagram (parts.withFailing fun _ => false) found true false (some 2) dg () =
        ([.handle 0 9, .handle 1 9, .upstream, .terminates], ()) ∧
      processDatagram (parts.withFailing (· == 0)) found true false (some 2) dg () =
        ([.handle 0 9], ()) :=
  ⟨rfl, rfl⟩

end Astron.MessageDirector

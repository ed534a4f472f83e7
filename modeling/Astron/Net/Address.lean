import Mathlib.Data.List.Basic

set_option autoImplicit false

/- `address_utils` (src/net/address_utils.cpp): `is_valid_address` and `resolve_address` split
an optional port off a host specification, then take the host as an IP literal, or check it as a
hostname or resolve it. A `std::string` is its list of characters. In the C locale a byte of
0x80 and above is no letter, digit or space, and neither is any character above 0x7f here, so
the checks treat both alike. `std::stoi` is libstdc++'s: `strtol` in base 10 after leading
spaces and a sign, `invalid_argument` when no digit follows, `out_of_range` outside `int`.
`boost::asio::ip::make_address` and the resolver are not under src/ and are parameters; the
resolver is asked for the port as a numeric service, so each endpoint it gives carries it. -/

namespace Astron.Address

/-- The exceptions `std::stoi` throws. -/
inductive StdException where
  | invalidArgument
  | outOfRange
deriving DecidableEq, Repr

/-- `isspace` in the C locale. -/
def isSpace (c : Char) : Bool :=
  c == ' ' || c == '\t' || c == '\n' || c == '\x0b' || c == '\x0c' || c == '\r'

/-- The value of a run of decimal digits, most significant first. -/
def decimalValue (digits : List Char) : Nat :=
  digits.foldl (fun value c => 10 * value + (c.toNat - '0'.toNat)) 0

/-- `std::stoi(str)`. -/
def stoi (str : List Char) : Except StdException Int :=
  let body := str.dropWhile isSpace
  let unsigned := if body.head? = some '-' ∨ body.head? = some '+' then body.drop 1 else body
  let digits := unsigned.takeWhile Char.isDigit
  if digits.isEmpty then .error .invalidArgument
  else
    let value : Int := if body.head? = some '-' then -(decimalValue digits : Int)
      else decimalValue digits
    if value < -2147483648 ∨ 2147483647 < value then .error .outOfRange else .ok value

/-- `str.rfind(c)`: the index of the last `c`. -/
def rfind (c : Char) : List Char → Option Nat
  | [] => none
  | x :: rest =>
    match rfind c rest with
    | some i => some (i + 1)
    | none => if x = c then some 0 else none

/-- `split_port(ip, port)`: `none` when it returns false, otherwise the `ip` and `port` it
leaves. The `out_of_range` of `std::stoi` is not caught there and leaves the call. -/
def splitPort (ip : List Char) (port : Nat) : Except StdException (Option (List Char × Nat)) :=
  match rfind ':' ip with
  | none => .ok (some (ip, port))
  | some lastColon =>
    if ip.count ':' > 1 ∧ ip.getD (lastColon - 1) '\x00' ≠ ']' then .ok (some (ip, port))
    else
      match stoi (ip.drop (lastColon + 1)) with
      | .ok value => .ok (some (ip.take lastColon, (value % 65536).toNat))
      | .error .invalidArgument => .ok none
      | .error .outOfRange => .error .outOfRange

/-- `NetAddress`. -/
structure NetAddress where
  ip : String
  port : Nat
deriving DecidableEq, Repr

/-- `parse_address(ip, port)`: `make_address` on `ip` without one pair of enclosing brackets.
`makeAddress` gives the address's `to_string()`, or nothing when it sets the error code. -/
def parseAddress (makeAddress : List Char → Option String) (ip : List Char) (port : Nat) :
    Option NetAddress :=
  let cleaned := if ip.head? = some '[' ∧ ip.getLast? = some ']' then (ip.drop 1).dropLast else ip
  (makeAddress cleaned).map fun address => ⟨address, port⟩

/-- `hostname.find(needle) != npos` for a needle of the two characters `a` and `b`. -/
def hasPair (a b : Char) : List Char → Bool
  | x :: y :: rest => (x == a && y == b) || hasPair a b (y :: rest)
  | _ => false

/-- `validate_hostname(hostname)`. `hostname[0]` of an empty string is its terminating
`'\0'`. -/
def validateHostname (hostname : List Char) : Bool :=
  hostname.all (fun c => c == '.' || c == '-' || c.isAlphanum) &&
    !(hasPair '.' '.' hostname || hasPair '-' '.' hostname || hasPair '.' '-' hostname) &&
    !(hostname.headD '\x00' == '-' || hostname.headD '\x00' == '.' ||
      hostname.headD '\x00' == '\x00') &&
    !(hostname.getLastD '\x00' == '-')

/-- `is_valid_address(hostspec)`. -/
def isValidAddress (makeAddress : List Char → Option String) (hostspec : List Char) :
    Except StdException Bool :=
  (splitPort hostspec 0).map fun split =>
    match split with
    | none => false
    | some (host, port) => (parseAddress makeAddress host port).isSome || validateHostname host

/-- `resolve_address(hostspec, port)`. `resolve host` is what
`tcp::resolver::resolve(host, std::to_string(port), ec)` gives: nothing when it sets `ec`,
otherwise the addresses of its endpoints. -/
def resolveAddress (makeAddress : List Char → Option String)
    (resolve : List Char → Option (List String)) (hostspec : List Char) (port : Nat) :
    Except StdException (List NetAddress) :=
  (splitPort hostspec port).map fun split =>
    match split with
    | none => []
    | some (host, port) =>
      match parseAddress makeAddress host port with
      | some address => [address]
      | none => ((resolve host).getD []).map fun ip => ⟨ip, port⟩

section Ports

variable (makeAddress : List Char → Option String) (resolve : List Char → Option (List String))

theorem isValidAddress_of_hostname {hostspec host : List Char} {port : Nat}
    (split : splitPort hostspec 0 = .ok (some (host, port))) (valid : validateHostname host = true) :
    isValidAddress makeAddress hostspec = .ok true := by
  simp [isValidAddress, split, valid, Except.map]

theorem parseAddress_port {ip : List Char} {port : Nat} {address : NetAddress}
    (parsed : parseAddress makeAddress ip port = some address) : address.port = port := by
  simp only [parseAddress, Option.map_eq_some'] at parsed
  obtain ⟨_, _, rfl⟩ := parsed
  rfl

theorem resolveAddress_port {hostspec host : List Char} {port port' : Nat}
    (split : splitPort hostspec port = .ok (some (host, port'))) {addresses : List NetAddress}
    (resolved : resolveAddress makeAddress resolve hostspec port = .ok addresses) :
    ∀ a ∈ addresses, a.port = port' := by
  simp only [resolveAddress, split, Except.map, Except.ok.injEq] at resolved
  subst resolved
  intro a mem
  split at mem
  · rename_i parsed
    rw [List.mem_singleton.mp mem]
    exact parseAddress_port makeAddress parsed
  · obtain ⟨_, _, rfl⟩ := List.mem_map.mp mem
    rfl

/-- Ports that are out of `int`'s range make `std::stoi` throw out of both calls; ports above
65535 are taken modulo 65536, and text after the digits is ignored: `a:70000` and `a:80x` are
valid, with ports 4464 and 80. -/
theorem splitPort_accepts_malformed_ports :
    isValidAddress makeAddress "a:99999999999".toList = .error .outOfRange ∧
    resolveAddress makeAddress resolve "a:99999999999".toList 7197 = .error .outOfRange ∧
    isValidAddress makeAddress "a:70000".toList = .ok true ∧
    (∀ addresses, resolveAddress makeAddress resolve "a:70000".toList 7197 = .ok addresses →
      ∀ a ∈ addresses, a.port = 4464) ∧
    isValidAddress makeAddress "a:80x".toList = .ok true ∧
    (∀ addresses, resolveAddress makeAddress resolve "a:-1".toList 7197 = .ok addresses →
      ∀ a ∈ addresses, a.port = 65535) :=
  ⟨rfl, rfl, isValidAddress_of_hostname makeAddress rfl rfl,
    fun _ => resolveAddress_port makeAddress resolve
      (show splitPort "a:70000".toList 7197 = .ok (some (['a'], 4464)) from rfl),
    isValidAddress_of_hostname makeAddress rfl rfl,
    fun _ => resolveAddress_port makeAddress resolve
      (show splitPort "a:-1".toList 7197 = .ok (some (['a'], 65535)) from rfl)⟩

/-- The port suffix of a host specification, `host:port` or `[v6]:port`: the text after the last
`:` when that is the only colon, or when a `]` stands right before it. -/
def portSuffix (hostspec : List Char) : Option (List Char) :=
  match rfind ':' hostspec with
  | none => none
  | some i =>
    if hostspec.count ':' = 1 ∨ hostspec.getD (i - 1) '\x00' = ']' then some (hostspec.drop (i + 1))
    else none

theorem rfind_mem {c : Char} {l : List Char} {i : Nat} (found : rfind c l = some i) : c ∈ l := by
  induction l generalizing i with
  | nil => cases found
  | cons x rest ih =>
    simp only [rfind] at found
    split at found
    · exact List.mem_cons_of_mem x (ih (by assumption))
    · split_ifs at found with same
      exact same ▸ List.mem_cons_self x rest

theorem stoi_numeral {digits : List Char} (nonempty : digits ≠ [])
    (numeral : ∀ c ∈ digits, c.isDigit = true) (small : decimalValue digits ≤ 2147483647) :
    stoi digits = .ok (decimalValue digits) := by
  obtain ⟨c, rest, rfl⟩ := List.exists_cons_of_ne_nil nonempty
  have digit := numeral c (List.mem_cons_self c rest)
  have notSpace : ¬isSpace c = true := by
    intro space
    simp only [isSpace, Bool.or_eq_true, beq_iff_eq] at space
    rcases space with ((((rfl | rfl) | rfl) | rfl) | rfl) | rfl <;> exact absurd digit (by decide)
  have notSign : ¬(some c = some '-' ∨ some c = some '+') := by
    rintro (same | same) <;> cases same <;> exact absurd digit (by decide)
  have notMinus : ¬some c = some '-' := fun same => notSign (.inl same)
  simp only [stoi, List.dropWhile_cons_of_neg notSpace, List.head?_cons, if_neg notSign,
    if_neg notMinus, List.takeWhile_eq_self_iff.mpr numeral]
  rw [if_neg (by simp), if_neg (by omega)]

theorem splitPort_of_no_suffix {hostspec : List Char} (none : portSuffix hostspec = none)
    (port : Nat) : splitPort hostspec port = .ok (some (hostspec, port)) := by
  unfold portSuffix at none
  unfold splitPort
  split
  · rfl
  · rename_i i found
    have colon := List.count_pos_iff.mpr (rfind_mem found)
    rw [found] at none
    simp only [ite_eq_right_iff, reduceCtorEq, imp_false, not_or] at none
    rw [if_pos ⟨by omega, none.2⟩]

theorem splitPort_of_numeral {hostspec suffix : List Char}
    (found : portSuffix hostspec = some suffix) (nonempty : suffix ≠ [])
    (numeral : ∀ c ∈ suffix, c.isDigit = true) (small : decimalValue suffix ≤ 65535) (port : Nat) :
    ∃ host, splitPort hostspec port = .ok (some (host, decimalValue suffix)) := by
  unfold portSuffix at found
  unfold splitPort
  split
  · rename_i none
    rw [none] at found
    cases found
  · rename_i i colon
    rw [colon] at found
    simp only [Option.ite_none_right_eq_some, Option.some.injEq] at found
    obtain ⟨suffixOnly, rfl⟩ := found
    have parsed := stoi_numeral nonempty numeral (by omega)
    rw [if_neg fun ⟨many, notBracket⟩ => suffixOnly.elim (by omega) notBracket, parsed]
    refine ⟨hostspec.take i, ?_⟩
    simp only [Except.ok.injEq, Option.some.injEq, Prod.mk.injEq, true_and]
    omega

/-- Without a port suffix, both calls return and every address carries the default port; with
a suffix that is a decimal numeral of at most 65535, both return and every address carries
that port. -/
theorem resolveAddress_numeral_port (hostspec : List Char) (port : Nat) :
    (portSuffix hostspec = none →
      (∃ valid, isValidAddress makeAddress hostspec = .ok valid) ∧
      ∃ addresses, resolveAddress makeAddress resolve hostspec port = .ok addresses ∧
        ∀ a ∈ addresses, a.port = port) ∧
    (∀ suffix, portSuffix hostspec = some suffix → suffix ≠ [] →
      (∀ c ∈ suffix, c.isDigit = true) → decimalValue suffix ≤ 65535 →
      (∃ valid, isValidAddress makeAddress hostspec = .ok valid) ∧
      ∃ addresses, resolveAddress makeAddress resolve hostspec port = .ok addresses ∧
        ∀ a ∈ addresses, a.port = decimalValue suffix) := by
  have returns : ∀ {split split' : Option (List Char × Nat)},
      splitPort hostspec port = .ok split → splitPort hostspec 0 = .ok split' →
      (∃ valid, isValidAddress makeAddress hostspec = .ok valid) ∧
        ∃ addresses, resolveAddress makeAddress resolve hostspec port = .ok addresses := by
    intro _ _ split split'
    exact ⟨⟨_, by rw [isValidAddress, split']; rfl⟩, ⟨_, by rw [resolveAddress, split]; rfl⟩⟩
  constructor
  · intro none
    have split := splitPort_of_no_suffix none
    obtain ⟨valid, addresses, resolved⟩ := returns (split port) (split 0)
    exact ⟨valid, addresses, resolved, resolveAddress_port makeAddress resolve (split port) resolved⟩
  · intro suffix found nonempty numeral small
    obtain ⟨host, split⟩ := splitPort_of_numeral found nonempty numeral small port
    obtain ⟨host', split'⟩ := splitPort_of_numeral found nonempty numeral small 0
    obtain ⟨valid, addresses, resolved⟩ := returns split split'
    exact ⟨valid, addresses, resolved, resolveAddress_port makeAddress resolve split resolved⟩

/-- `[::1]:8080` has the port suffix `8080`: both calls return, and every address carries
port 8080. -/
theorem resolveAddress_numeral_port_bracketed :
    portSuffix "[::1]:8080".toList = some "8080".toList ∧
    (∃ addresses, resolveAddress makeAddress resolve "[::1]:8080".toList 7197 = .ok addresses ∧
      ∀ a ∈ addresses, a.port = 8080) :=
  ⟨rfl, ((resolveAddress_numeral_port makeAddress resolve "[::1]:8080".toList 7197).2
    "8080".toList rfl (by decide) (by decide) (by decide)).2⟩

end Ports

/-- A character a label may hold: an ASCII letter, a digit or `-`. -/
def isLdh (c : Char) : Bool := c.isAlphanum || c == '-'

/-- A label: letters, digits and `-`, at least one, neither the first nor the last a `-`. -/
structure IsLabel (label : List Char) : Prop where
  chars : ∀ c ∈ label, isLdh c = true
  head : ∃ c rest, label = c :: rest ∧ c ≠ '-'
  last : label.getLast? ≠ some '-'

/-- One or more labels separated by `.`. -/
inductive Labels : List Char → Prop
  | one {label : List Char} : IsLabel label → Labels label
  | cons {label rest : List Char} : IsLabel label → Labels rest → Labels (label ++ '.' :: rest)

/-- A hostname by the RFC 1123 rules `validate_hostname` cites: labels separated by `.`, and at
most one trailing `.`. -/
def IsHostname (hostname : List Char) : Prop :=
  Labels hostname ∨ ∃ body, Labels body ∧ hostname = body ++ ['.']

/-- What `validate_hostname` checks, one condition a field. -/
structure Scanned (hostname : List Char) : Prop where
  chars : ∀ c ∈ hostname, c = '.' ∨ isLdh c = true
  dots : hasPair '.' '.' hostname = false
  dashDot : hasPair '-' '.' hostname = false
  dotDash : hasPair '.' '-' hostname = false
  head : ∃ c rest, hostname = c :: rest ∧ isLdh c = true ∧ c ≠ '-'
  last : hostname.getLast? ≠ some '-'

theorem hasPair_cons (a b x : Char) (rest : List Char) :
    hasPair a b (x :: rest) = ((x == a && rest.head? == some b) || hasPair a b rest) := by
  cases rest <;> simp [hasPair]

theorem hasPair_append (a b : Char) (u v : List Char) :
    hasPair a b (u ++ v) =
      (hasPair a b u || hasPair a b v || (u.getLast? == some a && v.head? == some b)) := by
  induction u with
  | nil => simp [hasPair]
  | cons x u ih =>
    cases u with
    | nil => simp [hasPair_cons, hasPair, Bool.or_comm]
    | cons y u =>
      rw [List.cons_append, hasPair_cons a b x (y :: u ++ v), ih, hasPair_cons a b x (y :: u),
        List.getLast?_cons_cons]
      simp only [List.cons_append, List.head?_cons, Bool.or_assoc]

theorem hasPair_of_not_mem {a b : Char} {l : List Char} (absent : a ∉ l ∨ b ∉ l) :
    hasPair a b l = false := by
  induction l with
  | nil => rfl
  | cons x rest ih =>
    rw [hasPair_cons, ih (absent.imp (fun out mem => out (List.mem_cons_of_mem x mem))
      (fun out mem => out (List.mem_cons_of_mem x mem))), Bool.or_false]
    cases rest with
    | nil => simp
    | cons y rest =>
      simp only [List.head?_cons, Option.some_beq_some, Bool.and_eq_false_iff, beq_eq_false_iff_ne]
      rcases absent with absent | absent
      · exact .inl fun same => absent (same ▸ List.mem_cons_self x _)
      · exact .inr fun same => absent (same ▸ List.mem_cons_of_mem x (List.mem_cons_self y _))

theorem isLdh_ne_dot {c : Char} (ldh : isLdh c = true) : c ≠ '.' := by
  rintro rfl
  exact absurd ldh (by decide)

theorem validateHostname_iff_scanned (hostname : List Char) :
    validateHostname hostname = true ↔ Scanned hostname := by
  have chars : (∀ c ∈ hostname, (c == '.' || c == '-' || c.isAlphanum) = true) ↔
      ∀ c ∈ hostname, c = '.' ∨ isLdh c = true := by
    simp only [isLdh, Bool.or_eq_true, beq_iff_eq]
    exact forall₂_congr fun c _ => by tauto
  cases hostname with
  | nil =>
    exact ⟨fun valid => absurd valid (by decide), fun scanned => by
      obtain ⟨_, _, empty, -⟩ := scanned.head
      cases empty⟩
  | cons c rest =>
    simp only [validateHostname, Bool.and_eq_true, List.all_eq_true, chars, Bool.not_eq_true',
      Bool.or_eq_false_iff, beq_eq_false_iff_ne, List.headD_cons, List.getLastD_eq_getLast?]
    constructor
    · rintro ⟨⟨⟨all, ⟨dots, dashDot⟩, dotDash⟩, ⟨notDash, notDot⟩, -⟩, last⟩
      refine ⟨all, dots, dashDot, dotDash, ⟨c, rest, rfl, ?_, notDash⟩, ?_⟩
      · exact (all c (List.mem_cons_self c rest)).resolve_left notDot
      · cases found : (c :: rest).getLast? <;> simp_all
    · rintro ⟨all, dots, dashDot, dotDash, ⟨c', rest', same, ldh, notDash⟩, last⟩
      cases same
      refine ⟨⟨⟨all, ⟨dots, dashDot⟩, dotDash⟩, ⟨notDash, isLdh_ne_dot ldh⟩, ?_⟩, ?_⟩
      · rintro rfl
        exact absurd ldh (by decide)
      · cases found : (c :: rest).getLast? <;> simp_all

theorem getLast?_append_dot (label : List Char) (c : Char) (rest : List Char) :
    (label ++ '.' :: c :: rest).getLast? = (c :: rest).getLast? := by
  rw [List.getLast?_append_cons, List.getLast?_cons_cons]

theorem IsLabel.scanned {label : List Char} (lab : IsLabel label) :
    Scanned label ∧ ∃ c, label.getLast? = some c ∧ isLdh c = true := by
  have absent : '.' ∉ label := fun mem => isLdh_ne_dot (lab.chars _ mem) rfl
  obtain ⟨c, rest, rfl, notDash⟩ := lab.head
  refine ⟨⟨fun c mem => .inr (lab.chars c mem), hasPair_of_not_mem (.inl absent),
    hasPair_of_not_mem (.inr absent), hasPair_of_not_mem (.inl absent),
    ⟨c, rest, rfl, lab.chars c (List.mem_cons_self c rest), notDash⟩, lab.last⟩, ?_⟩
  obtain ⟨last, found⟩ := Option.isSome_iff_exists.mp (List.getLast?_isSome.mpr (List.cons_ne_nil c rest))
  exact ⟨last, found, lab.chars last (List.mem_of_mem_getLast? found)⟩

theorem hasPair_join (a b : Char) {label rest : List Char} {e c : Char}
    (labelLast : label.getLast? = some e) (restHead : rest.head? = some c) :
    hasPair a b (label ++ '.' :: rest) =
      (hasPair a b label || (e == a && '.' == b) || ('.' == a && c == b) || hasPair a b rest) := by
  rw [hasPair_append, hasPair_cons, labelLast, restHead]
  simp only [List.head?_cons, Option.some_beq_some, Bool.or_assoc, Bool.or_comm, Bool.or_left_comm]

theorem Labels.scanned {hostname : List Char} (labels : Labels hostname) :
    Scanned hostname ∧ ∃ c, hostname.getLast? = some c ∧ isLdh c = true := by
  induction labels with
  | one lab => exact lab.scanned
  | @cons label rest lab _ ih =>
    obtain ⟨⟨chars, dots, dashDot, dotDash, ⟨c, t, split, ldh, notDash⟩, last⟩, final⟩ := ih
    obtain ⟨⟨labelChars, labelDots, labelDashDot, labelDotDash, ⟨d, u, labelSplit, dLdh, dNotDash⟩,
      -⟩, ⟨e, labelLast, eLdh⟩⟩ := lab.scanned
    have restHead : rest.head? = some c := by rw [split]; rfl
    have notDot := isLdh_ne_dot ldh
    have eNotDot := isLdh_ne_dot eLdh
    have eNotDash : e ≠ '-' := fun same => lab.last (same ▸ labelLast)
    have lastSame : (label ++ '.' :: rest).getLast? = rest.getLast? := by
      rw [split, getLast?_append_dot]
    refine ⟨⟨fun x mem => ?_, ?_, ?_, ?_, ⟨d, u ++ '.' :: rest, by rw [labelSplit]; rfl, dLdh,
      dNotDash⟩, lastSame ▸ last⟩, lastSame ▸ final⟩
    · simp only [List.mem_append, List.mem_cons] at mem
      rcases mem with mem | rfl | mem
      · exact labelChars x mem
      · exact .inl rfl
      · exact chars x mem
    all_goals
      rw [hasPair_join _ _ labelLast restHead]
      simp [labelDots, labelDashDot, labelDotDash, dots, dashDot, dotDash, notDot, eNotDot,
        eNotDash, notDash]

theorem Labels.scanned_dot {body : List Char} (labels : Labels body) : Scanned (body ++ ['.']) := by
  obtain ⟨⟨chars, dots, dashDot, dotDash, ⟨c, t, split, ldh, notDash⟩, last⟩, ⟨e, found, eLdh⟩⟩ :=
    labels.scanned
  have eNotDot := isLdh_ne_dot eLdh
  have eNotDash : e ≠ '-' := fun same => last (same ▸ found)
  refine ⟨fun x mem => ?_, ?_, ?_, ?_, ⟨c, t ++ ['.'], by rw [split]; rfl, ldh, notDash⟩,
    by simp⟩
  · rcases List.mem_append.mp mem with mem | mem
    · exact chars x mem
    · exact .inl (List.mem_singleton.mp mem)
  all_goals
    rw [hasPair_append, found]
    simp [hasPair, dots, dashDot, dotDash, eNotDot, eNotDash]

theorem exists_first_mem (c : Char) {l : List Char} (mem : c ∈ l) :
    ∃ s t, l = s ++ c :: t ∧ c ∉ s := by
  induction l with
  | nil => cases mem
  | cons x rest ih =>
    by_cases same : x = c
    · exact ⟨[], rest, by rw [same]; rfl, List.not_mem_nil c⟩
    · obtain ⟨s, t, split, absent⟩ := ih ((List.mem_cons.mp mem).resolve_left (Ne.symm same))
      exact ⟨x :: s, t, by rw [split]; rfl, by simp [absent, Ne.symm same]⟩

theorem Scanned.label_of_no_dot {hostname : List Char} (scanned : Scanned hostname)
    (absent : '.' ∉ hostname) : IsLabel hostname := by
  obtain ⟨c, rest, rfl, _, notDash⟩ := scanned.head
  exact ⟨fun x mem => (scanned.chars x mem).resolve_left fun same => absent (same ▸ mem),
    ⟨c, rest, rfl, notDash⟩, scanned.last⟩

theorem Scanned.first_label {label rest : List Char} (scanned : Scanned (label ++ '.' :: rest))
    (absent : '.' ∉ label) : IsLabel label := by
  obtain ⟨c, t, split, ldh, notDash⟩ := scanned.head
  cases label with
  | nil => exact absurd (List.cons.inj split).1.symm (isLdh_ne_dot ldh)
  | cons d u =>
    obtain ⟨rfl, -⟩ := List.cons.inj split
    refine ⟨fun x mem => (scanned.chars x (List.mem_append_left _ mem)).resolve_left
      fun same => absent (same ▸ mem), ⟨d, u, rfl, notDash⟩, fun last => ?_⟩
    have dashDot := scanned.dashDot
    rw [hasPair_append, last] at dashDot
    simp at dashDot

theorem Scanned.after_dot {label : List Char} {c : Char} {rest : List Char}
    (scanned : Scanned (label ++ '.' :: c :: rest)) : Scanned (c :: rest) := by
  have dots := scanned.dots
  have dashDot := scanned.dashDot
  have dotDash := scanned.dotDash
  simp only [hasPair_append, hasPair_cons '.' _ '.', hasPair_cons '-' _ '.', Bool.or_eq_false_iff,
    List.head?_cons, beq_self_eq_true, Bool.true_and, Option.some_beq_some,
    beq_eq_false_iff_ne] at dots dashDot dotDash
  have ldh := (scanned.chars c (by simp)).resolve_left dots.1.2.1
  refine ⟨fun x mem => scanned.chars x (by simp [mem]), dots.1.2.2, dashDot.1.2.2,
    dotDash.1.2.2, ⟨c, rest, rfl, ldh, dotDash.1.2.1⟩, ?_⟩
  rw [← getLast?_append_dot label]
  exact scanned.last

theorem Scanned.isHostname {hostname : List Char} (scanned : Scanned hostname) :
    IsHostname hostname := by
  obtain ⟨n, size⟩ : ∃ n, hostname.length = n := ⟨_, rfl⟩
  induction n using Nat.strong_induction_on generalizing hostname with
  | _ n ih =>
    by_cases dot : '.' ∈ hostname
    · obtain ⟨label, rest, rfl, absent⟩ := exists_first_mem '.' dot
      have lab := scanned.first_label absent
      cases rest with
      | nil => exact .inr ⟨label, .one lab, rfl⟩
      | cons c t =>
        have shorter : (c :: t).length < n := by
          simp only [← size, List.length_append, List.length_cons]
          omega
        rcases ih _ shorter scanned.after_dot rfl with labels | ⟨body, labels, same⟩
        · exact .inl (.cons lab labels)
        · exact .inr ⟨label ++ '.' :: body, .cons lab labels, by rw [same]; simp⟩
    · exact .inl (.one (scanned.label_of_no_dot dot))

/-- `validate_hostname` accepts exactly the hostnames made of one or more `.`-separated labels
of ASCII letters, digits and `-`, none empty and none starting or ending with `-`, with at most
one trailing `.`. -/
theorem validateHostname_iff_labels (hostname : List Char) :
    validateHostname hostname = true ↔ IsHostname hostname := by
  rw [validateHostname_iff_scanned]
  refine ⟨Scanned.isHostname, ?_⟩
  rintro (labels | ⟨body, labels, rfl⟩)
  · exact labels.scanned.1
  · exact labels.scanned_dot

end Astron.Address

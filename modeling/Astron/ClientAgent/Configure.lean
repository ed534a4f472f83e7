import Astron.ClientAgent.ChannelTracker
import Astron.Config.Section
import Astron.Config.Validator
import Mathlib.Data.String.Basic

set_option autoImplicit false

/- The configuration part of `ClientAgent::ClientAgent` (src/clientagent/ClientAgent.cpp): what the
constructor reads from its role entry through `ConfigSection`, with `parse_manual_hash`, and
`ClientAgent::schema()`, the schema `ConfigValidator` checks a `clientagent` role entry against.
`std::stoul(raw, nullptr, 0)` is `strtoul` with base 0 under libstdc++'s wrapper, which throws
`invalid_argument` when no digit was read and `out_of_range` on `ERANGE`. The log lines and the
acceptor are left out; `dclass::legacy_hash(g_dcf)` and the client types `ClientFactory` knows
are parameters. yaml-cpp's `as<bool>` and `as<channel_t>` are parameters too, and the validator's
decoders are read off them, so the schema and the constructor agree on which scalars convert. -/

namespace Astron.ClientAgent

open Astron.Yaml Astron.Config

/-- `isspace` in the `"C"` locale. -/
def isSpace (c : Char) : Bool := c = ' ' || (9 ≤ c.toNat && c.toNat ≤ 13)

/-- The value of a digit or a letter, in the bases up to 36. -/
def digitValue (c : Char) : Option Nat :=
  if '0' ≤ c ∧ c ≤ '9' then some (c.toNat - '0'.toNat)
  else if 'a' ≤ c ∧ c ≤ 'z' then some (c.toNat - 'a'.toNat + 10)
  else if 'A' ≤ c ∧ c ≤ 'Z' then some (c.toNat - 'A'.toNat + 10)
  else none

/-- The values of the digits of base `base` at the front of `cs`. -/
def leadingDigits (base : Nat) : List Char → List Nat
  | [] => []
  | c :: cs =>
    match digitValue c with
    | some d => if d < base then d :: leadingDigits base cs else []
    | none => []

/-- The value of digits of base `base`, the most significant first. -/
def digitsValue (base : Nat) (digits : List Nat) : Nat :=
  digits.foldl (fun acc d => acc * base + d) 0

/-- The base `strtoul` takes for base 0, and where its digits start: `0x` or `0X` before a hex
digit is hexadecimal, another leading `0` octal, and anything else decimal. -/
def detectBase : List Char → Nat × List Char
  | '0' :: x :: c :: rest =>
    if (x = 'x' ∨ x = 'X') ∧ (digitValue c).getD 16 < 16 then (16, c :: rest)
    else (8, '0' :: x :: c :: rest)
  | '0' :: rest => (8, '0' :: rest)
  | cs => (10, cs)

/-- The exceptions of `std::stoul`. -/
inductive StoulError where
  | invalidArgument  -- `std::invalid_argument`: `strtoul` read no digit
  | outOfRange  -- `std::out_of_range`: `strtoul` set `ERANGE`
deriving DecidableEq, Repr

/-- The sign `strtoul` reads: a minus negates, a plus is skipped. -/
def readSign : List Char → Bool × List Char
  | '-' :: rest => (true, rest)
  | '+' :: rest => (false, rest)
  | cs => (false, cs)

/-- The magnitude `strtoul` reads after the sign: the base, then the longest run of digits, which
must fit an `unsigned long`. -/
def readMagnitude (cs : List Char) : Except StoulError Nat :=
  let based := detectBase cs
  let digits := leadingDigits based.1 based.2
  if digits = [] then .error .invalidArgument
  else if 2 ^ 64 ≤ digitsValue based.1 digits then .error .outOfRange
  else .ok (digitsValue based.1 digits)

/-- `std::stoul(str, nullptr, 0)`: white space, a sign and a magnitude; a minus sign negates the
magnitude modulo `2 ^ 64`. -/
def stoul (str : String) : Except StoulError Nat :=
  let signed := readSign (str.toList.dropWhile isSpace)
  match readMagnitude signed.2 with
  | .ok value => .ok (if signed.1 then (2 ^ 64 - value) % 2 ^ 64 else value)
  | .error e => .error e

/-- `parse_manual_hash`: nothing for an empty string or one `stoul` rejects (with a warning),
otherwise the value cast to `uint32_t`. -/
def parseManualHash (raw : String) : Option Nat :=
  if raw.isEmpty then none
  else
    match stoul raw with
    | .ok value => some (value % 2 ^ 32)
    | .error _ => none

theorem digitValue_digitChar : ∀ d < 10, digitValue (Nat.digitChar d) = some d := by decide

theorem digitChar_ne_zero : ∀ d < 10, 0 < d → Nat.digitChar d ≠ '0' := by decide

theorem isSpace_digitChar : ∀ d < 10, isSpace (Nat.digitChar d) = false := by decide

theorem digitChar_not_sign : ∀ d < 10, Nat.digitChar d ≠ '-' ∧ Nat.digitChar d ≠ '+' := by decide

theorem toDigitsCore_decimal : ∀ (fuel n : Nat) (ds : List Char), n < fuel →
    ∃ front : List Nat, Nat.toDigitsCore 10 fuel n ds = front.map Nat.digitChar ++ ds ∧
      (∀ d ∈ front, d < 10) ∧ digitsValue 10 front = n ∧
      (0 < n → ∃ d rest, front = d :: rest ∧ 0 < d)
  | 0, n, _, lt => absurd lt (Nat.not_lt_zero n)
  | fuel + 1, n, ds, lt => by
    have unfolded : Nat.toDigitsCore 10 (fuel + 1) n ds =
        if n / 10 = 0 then Nat.digitChar (n % 10) :: ds
        else Nat.toDigitsCore 10 fuel (n / 10) (Nat.digitChar (n % 10) :: ds) := rfl
    rw [unfolded]
    split
    · have value : digitsValue 10 [n % 10] = n % 10 := by simp [digitsValue]
      refine ⟨[n % 10], rfl, fun d mem => ?_, by rw [value]; omega,
        fun _ => ⟨n % 10, [], rfl, by omega⟩⟩
      rw [List.mem_singleton.mp mem]
      omega
    · obtain ⟨front, eq, digits, value, lead⟩ :=
        toDigitsCore_decimal fuel (n / 10) (Nat.digitChar (n % 10) :: ds) (by omega)
      refine ⟨front ++ [n % 10], by simp [eq], ?_, ?_, fun _ => ?_⟩
      · intro d mem
        rcases List.mem_append.mp mem with mem | mem
        · exact digits d mem
        · simp only [List.mem_singleton] at mem; omega
      · simp only [digitsValue, List.foldl_append, List.foldl_cons, List.foldl_nil] at value ⊢
        rw [value]
        omega
      · obtain ⟨d, rest, rfl, pos⟩ := lead (by omega)
        exact ⟨d, rest ++ [n % 10], rfl, pos⟩

theorem leadingDigits_digitChars : ∀ front : List Nat, (∀ d ∈ front, d < 10) →
    leadingDigits 10 (front.map Nat.digitChar) = front
  | [], _ => rfl
  | d :: rest, small => by
    have first := small d (List.mem_cons_self d rest)
    simp only [List.map_cons, leadingDigits, digitValue_digitChar d first, if_pos first,
      leadingDigits_digitChars rest fun e mem => small e (List.mem_cons_of_mem d mem)]

theorem detectBase_of_ne_zero {c : Char} (cs : List Char) (other : c ≠ '0') :
    detectBase (c :: cs) = (10, c :: cs) := by
  unfold detectBase
  split <;> simp_all

theorem readMagnitude_toDigits {n : Nat} (small : n < 2 ^ 64) :
    readMagnitude (Nat.toDigits 10 n) = .ok n := by
  rcases Nat.eq_zero_or_pos n with rfl | pos
  · rfl
  obtain ⟨front, eq, digits, value, lead⟩ := toDigitsCore_decimal (n + 1) n [] (by omega)
  obtain ⟨d, rest, rfl, first⟩ := lead pos
  have written : Nat.toDigits 10 n = Nat.digitChar d :: (rest.map Nat.digitChar) := by
    simpa using eq
  have nonzero := digitChar_ne_zero d (digits d (List.mem_cons_self d rest)) first
  have read := leadingDigits_digitChars (d :: rest) digits
  simp only [List.map_cons] at read
  simp only [readMagnitude, written, detectBase_of_ne_zero _ nonzero, read, value,
    reduceCtorEq, if_false, Nat.not_le.mpr small]

theorem stoul_toString {n : Nat} (small : n < 2 ^ 64) : stoul (toString n) = .ok n := by
  rcases Nat.eq_zero_or_pos n with rfl | pos
  · rfl
  obtain ⟨front, eq, digits, -, lead⟩ := toDigitsCore_decimal (n + 1) n [] (by omega)
  obtain ⟨d, rest, rfl, -⟩ := lead pos
  have digit := digits d (List.mem_cons_self d rest)
  have written : (toString n).toList = Nat.digitChar d :: (rest.map Nat.digitChar) := by
    simpa using eq
  have unsigned : readSign (Nat.digitChar d :: rest.map Nat.digitChar) =
      (false, Nat.digitChar d :: rest.map Nat.digitChar) := by
    obtain ⟨notMinus, notPlus⟩ := digitChar_not_sign d digit
    unfold readSign; split <;> simp_all
  have magnitude : readMagnitude (Nat.toDigitsCore 10 (n + 1) n []) = .ok n :=
    readMagnitude_toDigits small
  rw [eq] at magnitude
  simp only [stoul, written, List.dropWhile_cons, isSpace_digitChar d digit, Bool.false_eq_true,
    if_false, unsigned, List.map_cons, List.append_nil] at magnitude ⊢
  rw [magnitude]

theorem stoul_neg_toString {n : Nat} (small : n < 2 ^ 64) :
    stoul ("-" ++ toString n) = .ok ((2 ^ 64 - n) % 2 ^ 64) := by
  have minus : isSpace '-' = false := rfl
  have written : ("-" ++ toString n).toList = '-' :: Nat.toDigits 10 n := rfl
  simp only [stoul, written, List.dropWhile_cons, minus, Bool.false_eq_true, if_false, readSign,
    readMagnitude_toDigits small, if_true]

/-- The `channels` object of `ClientAgent::schema()`. -/
def channelsSchema (channels : SchemaNode) : SchemaNode :=
  channels |>.allowAdditional false |>.requiredInt "min" |>.requiredInt "max"

/-- The `client` object of `ClientAgent::schema()`. -/
def clientSchema (client : SchemaNode) : SchemaNode :=
  client |>.allowAdditional false |>.optionalBool "relocate"
    |>.enumString "add_interest" ["visible", "enabled", "disabled"] false
    |>.optionalString "manual_dc_hash" |>.optionalBool "send_hash" |>.optionalBool "send_version"

/-- The `tuning` object of `ClientAgent::schema()`. -/
def tuningSchema (tuning : SchemaNode) : SchemaNode :=
  tuning |>.allowAdditional false |>.optionalInt "interest_timeout"

/-- `ClientAgent::schema()`. -/
def schema : SchemaDefinition :=
  Schema.role "clientagent" fun builder =>
    builder |>.allowAdditional false |>.requiredString "type" |>.requiredString "bind"
      |>.requiredString "version" |>.optionalBool "haproxy" |>.optionalString "manual_dc_hash"
      |>.requiredObject "channels" channelsSchema |>.optionalObject "client" clientSchema
      |>.optionalObject "tuning" tuningSchema

/-- yaml-cpp's `as<bool>` and `as<channel_t>` (a `uint64_t`), and whether `as<long long>` and
`as<double>` accept a scalar. -/
structure Conversions where
  bool : String → Option Bool
  int : String → Bool
  uint : String → Option Nat
  number : String → Bool

/-- The validator's decoders for the same conversions. -/
def Conversions.decoders (conv : Conversions) : Decoders :=
  ⟨fun s => (conv.bool s).isSome, conv.int, fun s => (conv.uint s).isSome, conv.number⟩

/-- What the constructor takes from outside its role entry. -/
structure Environment where
  legacyHash : Nat  -- `dclass::legacy_hash(g_dcf)`
  hasClientType : String → Bool  -- `ClientFactory::singleton().has_client_type`

/-- What the constructor sets from the configuration. -/
structure Settings where
  bindAddress : String  -- The address `m_net_acceptor` binds
  serverVersion : String  -- `m_server_version`
  haproxyMode : Bool  -- The acceptor's HAProxy mode
  hash : Nat  -- `m_hash`
  clientType : String  -- `m_client_type`
  clientConfig : ConfigSection  -- `m_client_config`
  channels : ChannelTracker  -- `m_ct`
  interestTimeout : Nat  -- `m_interest_timeout`
deriving DecidableEq, Repr

/-- `INVALID_CHANNEL` (core/types.h). -/
def invalidChannel : Nat := 0

/-- `ConfigSection config(roleconfig, "roles.clientagent")`. -/
def roleSection (entry : Nat) : ConfigSection := ⟨.node entry, "roles.clientagent"⟩

/-- The constructor's `parse_hash_node`. -/
def parseHashNode (m : Memory) (node : Handle) (source : String) :
    Except ConfigError (Option Nat) :=
  if !node.isDefined m then .ok none
  else if !node.isScalar m then .error (.runtime (source ++ " must be a scalar."))
  else .ok (parseManualHash (node.scalar m))

/-- `config_hash` from `config.yaml()["manual_dc_hash"]`, 0 when that gives nothing. -/
def configHash (m : Memory) (entry : Nat) : Except ConfigError Nat := do
  let node ← (roleSection entry).node.get m "manual_dc_hash"
  let parsed ← parseHashNode m node "clientagent.manual_dc_hash"
  pure (parsed.getD 0)

/-- `m_hash` and `client_block`: the `client` block's override when `config_hash` is 0, and the
legacy hash when neither gives one. -/
def readHash (env : Environment) (m : Memory) (entry : Nat) :
    Except ConfigError (Nat × ConfigSection) := do
  let first ← configHash m entry
  let clientBlock ← (roleSection entry).child m "client"
  let chosen ← if first = 0 then do
      let node ← clientBlock.node.get m "manual_dc_hash"
      let parsed ← parseHashNode m node "clientagent.client.manual_dc_hash"
      pure (parsed.getD first)
    else pure first
  pure (if chosen > 0 then chosen else env.legacyHash, clientBlock)

/-- `m_client_type`, and the fatal exit for a type no client handler exists for. -/
def readClientType (env : Environment) (m : Memory) (clientBlock : ConfigSection) :
    Except ConfigError String := do
  let clientType ← clientBlock.getOr m "type" "libastron" (Handle.asString m)
  if !env.hasClientType clientType then
    throw (.exit ("No client handler exists for type '" ++ clientType ++ "'."))
  pure clientType

/-- `m_interest_timeout`: 500 unless `tuning.interest_timeout` is given, and then `std::stoul`
of it. -/
def readInterestTimeout (m : Memory) (tuning : ConfigSection) : Except ConfigError Nat :=
  if tuning.defined m then do
    let timeoutNode ← tuning.node.get m "interest_timeout"
    if timeoutNode.isDefined m then
      if !timeoutNode.isScalar m then
        throw (.runtime (tuning.path ++ ".interest_timeout must be a scalar."))
      else
        match stoul (timeoutNode.scalar m) with
        | .ok value => pure value
        | .error _ => throw (.runtime (tuning.path ++ ".interest_timeout: "))
    else pure 500
  else pure 500

/-- The configuration reads of `ClientAgent::ClientAgent` on the role entry `entry`, in the
constructor's order. -/
def construct (conv : Conversions) (env : Environment) (m : Memory) (entry : Nat) :
    Except ConfigError Settings := do
  let config := roleSection entry
  let bindAddress ← config.getOr m "bind" "0.0.0.0:7198" (Handle.asString m)
  let serverVersion ← config.getOr m "version" "dev" (Handle.asString m)
  let haproxyMode ← config.getOr m "haproxy" false (Handle.asValue m conv.bool)
  let hashed ← readHash env m entry
  let clientType ← readClientType env m hashed.2
  let channels ← config.child m "channels"
  let rangeMin ← channels.getOr m "min" invalidChannel (Handle.asValue m conv.uint)
  let rangeMax ← channels.getOr m "max" invalidChannel (Handle.asValue m conv.uint)
  let tuning ← config.child m "tuning"
  let interestTimeout ← readInterestTimeout m tuning
  pure ⟨bindAddress, serverVersion, haproxyMode, hashed.1, clientType, hashed.2,
    ChannelTracker.create rangeMin rangeMax, interestTimeout⟩

theorem parseManualHash_eq (raw : String) :
    parseManualHash raw =
      match stoul raw with
      | .ok value => some (value % 2 ^ 32)
      | .error _ => none := by
  unfold parseManualHash
  split
  · rename_i empty
    rw [(String.isEmpty_iff raw).mp empty]
    rfl
  · rfl

theorem defined_of_scalar {m : Memory} {v : Nat} (scalar : m.typeOf v = .scalar) :
    (m.data v).defined = true := by
  unfold Memory.typeOf at scalar
  split at scalar <;> simp_all

/-- `config_hash` from a top-level `manual_dc_hash` that is the decimal numeral of `n` is `n`
cast to `uint32_t`: an override whose low 32 bits are all zero, such as `4294967296`, counts as
none, and the `client` block's override or the legacy hash is used instead. -/
theorem configHash_decimal {m : Memory} {entry v n : Nat} (isMap : m.typeOf entry = .map)
    (found : m.lookup entry "manual_dc_hash" = some v) (scalar : m.typeOf v = .scalar)
    (numeral : (m.data v).scalar = toString n) (small : n < 2 ^ 64) :
    configHash m entry = .ok (n % 2 ^ 32) := by
  simp only [configHash, roleSection, Handle.get_node_of_map isMap, found, ok_bind, parseHashNode,
    Handle.isDefined, defined_of_scalar scalar, Handle.isScalar, scalar, Handle.scalar, numeral,
    parseManualHash_eq, stoul_toString small]
  rfl

/-- `manual_dc_hash: 4294967296` is `2 ^ 32`, and gives no override. -/
theorem configHash_decimal_wraps :
    let doc : Doc := .map [(.scalar "manual_dc_hash", .scalar "4294967296")]
    configHash doc.parse.1 doc.parse.2 = .ok 0 := by
  intro doc
  exact configHash_decimal (v := 1) (n := 4294967296) rfl rfl rfl rfl (by decide)

/-- `m_interest_timeout` is `std::stoul` of `tuning.interest_timeout`: the decimal numeral of `n`
gives `n`, and the same numeral after a minus sign, which the schema's `optional_int` lets
through, gives `2 ^ 64 - n`. -/
theorem readInterestTimeout_decimal {m : Memory} {tuning : ConfigSection} {t v n : Nat}
    (node : tuning.node = .node t) (isMap : m.typeOf t = .map)
    (found : m.lookup t "interest_timeout" = some v) (scalar : m.typeOf v = .scalar)
    (small : n < 2 ^ 64) :
    ((m.data v).scalar = toString n → readInterestTimeout m tuning = .ok n) ∧
      ((m.data v).scalar = "-" ++ toString n →
        readInterestTimeout m tuning = .ok ((2 ^ 64 - n) % 2 ^ 64)) := by
  have defined : tuning.defined m = true := by
    rw [ConfigSection.defined, node, Handle.isDefined]
    unfold Memory.typeOf at isMap
    split at isMap <;> simp_all
  constructor <;> intro numeral <;>
    simp only [readInterestTimeout, defined, if_true, node, Handle.get_node_of_map isMap, found, ok_bind,
      Handle.isDefined, defined_of_scalar scalar, Handle.isScalar, scalar, Handle.scalar,
      numeral, stoul_toString small, stoul_neg_toString small] <;> rfl

/-- `interest_timeout: -1` gives the largest `unsigned long`. -/
theorem readInterestTimeout_decimal_negative :
    let doc : Doc := .map [(.scalar "interest_timeout", .scalar "-1")]
    let tuning : ConfigSection := ⟨.node doc.parse.2, "roles.clientagent.tuning"⟩
    readInterestTimeout doc.parse.1 tuning = .ok 18446744073709551615 := by
  intro doc tuning
  have node : tuning.node = .node 2 := rfl
  exact (readInterestTimeout_decimal (m := doc.parse.1) (v := 1) (n := 1) node rfl rfl rfl
    (by decide)).2 rfl

theorem bind_eq_ok {ε α β : Type} {x : Except ε α} {f : α → Except ε β} {r : β}
    (bound : x >>= f = .ok r) : ∃ a, x = .ok a ∧ f a = .ok r := by
  cases x with
  | error e => cases bound
  | ok a => exact ⟨a, rfl, bound⟩

theorem construct_clientType {conv : Conversions} {env : Environment} {m : Memory} {entry : Nat}
    {settings : Settings} (built : construct conv env m entry = .ok settings) :
    ∃ hashed, readHash env m entry = .ok hashed ∧
      readClientType env m hashed.2 = .ok settings.clientType := by
  dsimp only [construct] at built
  obtain ⟨_, -, built⟩ := bind_eq_ok built
  obtain ⟨_, -, built⟩ := bind_eq_ok built
  obtain ⟨_, -, built⟩ := bind_eq_ok built
  obtain ⟨hashed, hash, built⟩ := bind_eq_ok built
  obtain ⟨clientType, typed, built⟩ := bind_eq_ok built
  obtain ⟨_, -, built⟩ := bind_eq_ok built
  obtain ⟨_, -, built⟩ := bind_eq_ok built
  obtain ⟨_, -, built⟩ := bind_eq_ok built
  obtain ⟨_, -, built⟩ := bind_eq_ok built
  obtain ⟨_, -, built⟩ := bind_eq_ok built
  cases built
  exact ⟨hashed, hash, typed⟩

theorem readHash_clientBlock {env : Environment} {m : Memory} {entry : Nat}
    {hashed : Nat × ConfigSection} (read : readHash env m entry = .ok hashed) :
    (roleSection entry).child m "client" = .ok hashed.2 := by
  dsimp only [readHash] at read
  obtain ⟨_, -, read⟩ := bind_eq_ok read
  obtain ⟨block, child, read⟩ := bind_eq_ok read
  split at read
  · obtain ⟨_, -, read⟩ := bind_eq_ok read
    obtain ⟨_, -, read⟩ := bind_eq_ok read
    cases read
    exact child
  · cases read
    exact child

theorem readClientType_eq {env : Environment} {m : Memory} {block : ConfigSection}
    {clientType : String} (read : readClientType env m block = .ok clientType) :
    block.getOr m "type" "libastron" (Handle.asString m) = .ok clientType ∧
      env.hasClientType clientType = true := by
  dsimp only [readClientType] at read
  obtain ⟨found, got, read⟩ := bind_eq_ok read
  cases known : env.hasClientType found
  · simp [known] at read
    cases read
  · simp only [known, Bool.not_true, Bool.false_eq_true, if_false] at read
    cases read
    exact ⟨got, known⟩

theorem schema_root : schema.root = .mk false [("type", .mk .string true [] none),
    ("bind", .mk .string true [] none), ("version", .mk .string true [] none),
    ("haproxy", .mk .bool false [] none), ("manual_dc_hash", .mk .string false [] none),
    ("channels", .mk .object true [] (some (SchemaNode.build channelsSchema))),
    ("client", .mk .object false [] (some (SchemaNode.build clientSchema))),
    ("tuning", .mk .object false [] (some (SchemaNode.build tuningSchema)))] := rfl

theorem clientSchema_build : SchemaNode.build clientSchema = .mk false [
    ("relocate", .mk .bool false [] none),
    ("add_interest", .mk .string false ["visible", "enabled", "disabled"] none),
    ("manual_dc_hash", .mk .string false [] none), ("send_hash", .mk .bool false [] none),
    ("send_version", .mk .bool false [] none)] := rfl

/-- `ClientAgent::schema()` makes `client` optional and gives it no `type` key, while the
constructor reads `client.type` with the fallback `libastron` through `ConfigSection`, which
reads the string `"null"` from a section that is missing. So a role entry the schema accepts
constructs only if it has a `client` section, and then with the client type `libastron`,
unless some client handler is named `null`. -/
theorem construct_needs_client_section {conv : Conversions} {env : Environment} {m : Memory}
    (plain : KeysPlain m) {entry : Nat} {path : String} {errors : List String}
    (valid : validateNode conv.decoders m entry schema.root path = .ok (true, errors))
    (noNull : env.hasClientType "null" = false) {settings : Settings}
    (built : construct conv env m entry = .ok settings) :
    (∃ client, m.lookup entry "client" = some client ∧ (m.data client).defined = true) ∧
      settings.clientType = "libastron" := by
  obtain ⟨ok, errs, result, -, decides⟩ :=
    validateNode_decides conv.decoders m plain entry schema.root path
  rw [valid] at result
  cases result
  have conforms := decides.mp rfl
  rw [schema_root] at conforms
  obtain ⟨isMap, props, -⟩ := conforms
  obtain ⟨-, -, -, -, -, -, client, -⟩ := props
  obtain ⟨hashed, hash, typed⟩ := construct_clientType built
  obtain ⟨read, known⟩ := readClientType_eq typed
  have block := readHash_clientBlock hash
  rw [ConfigSection.child_of_map rfl isMap] at block
  injection block with block
  rw [← block] at read
  -- an undefined `client` reads `"null"`, which names no handler
  have nullType : ∀ node : Handle, node.isDefined m = false →
      (⟨node, (roleSection entry).keyPath "client"⟩ : ConfigSection).getOr m "type" "libastron"
        (Handle.asString m) ≠ .ok settings.clientType := fun node undefined named => by
    rw [ConfigSection.getOr_string_of_undefined undefined] at named
    injection named with named
    rw [← named, noNull] at known
    cases known
  cases found : m.lookup entry "client" with
  | none =>
    simp only [found] at read
    exact absurd read (nullType .zombie rfl)
  | some v =>
    simp only [found] at read
    cases defined : (m.data v).defined
    · exact absurd read (nullType (.node v) defined)
    · refine ⟨⟨v, rfl, defined⟩, ?_⟩
      simp only [Present, found, defined, if_true, ValueConforms, clientSchema_build,
        Conforms] at client
      obtain ⟨isObject, -, keys⟩ := client
      have missing : ∀ t, m.lookup v "type" = some t → (m.data t).defined = false :=
        lookup_undefined_of_keys fun kv mem => by
          obtain ⟨k, name, named⟩ := keys trivial kv mem
          exact ⟨k, name, by rintro rfl; simp at named⟩
      rw [ConfigSection.getOr_of_not_defined rfl isObject missing] at read
      injection read with read
      exact read.symm

/-- An entry with an empty `client` section validates and constructs with `libastron`. -/
theorem construct_needs_client_section_accepted :
    let doc : Doc := .map [(.scalar "type", .scalar "clientagent"),
      (.scalar "bind", .scalar "0.0.0.0:7198"), (.scalar "version", .scalar "dev"),
      (.scalar "channels", .map [(.scalar "min", .scalar "1000"), (.scalar "max", .scalar "1999")]),
      (.scalar "client", .map [])]
    let conv : Conversions := ⟨fun _ => none, fun _ => true,
      fun s => some (digitsValue 10 (leadingDigits 10 s.toList)), fun _ => false⟩
    let env : Environment := ⟨0x1234, fun t => t = "libastron"⟩
    let settings : Settings := ⟨"0.0.0.0:7198", "dev", false, 0x1234, "libastron",
      ⟨.node 13, "roles.clientagent.client"⟩, ChannelTracker.create 1000 1999, 500⟩
    validateNode conv.decoders doc.parse.1 doc.parse.2 schema.root "$.roles[0](clientagent)" =
        .ok (true, []) ∧
      construct conv env doc.parse.1 doc.parse.2 = .ok settings ∧
      ((∃ client, doc.parse.1.lookup doc.parse.2 "client" = some client ∧
          (doc.parse.1.data client).defined = true) ∧ settings.clientType = "libastron") := by
  intro doc conv env settings
  have valid : validateNode conv.decoders doc.parse.1 doc.parse.2 schema.root
      "$.roles[0](clientagent)" = .ok (true, []) := rfl
  have built : construct conv env doc.parse.1 doc.parse.2 = .ok settings := rfl
  exact ⟨valid, built, construct_needs_client_section (by decide) valid rfl built⟩

end Astron.ClientAgent

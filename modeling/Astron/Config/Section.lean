import Astron.Config.Yaml

set_option autoImplicit false

/- `ConfigSection` (src/config/ConfigSection.h, src/config/ConfigSection.cpp): a `YAML::Node`
handle with the path it was reached by, over the yaml-cpp memory of `Astron.Yaml`. A handle is
a node of the document, the zombie that a const `operator[]` returns for a missing key (not
valid), or the `YAML::Node()` that `resolve` returns when the section's own node is not defined.
yaml-cpp (0.7 and later) takes that last handle for a valid, defined null node with no node
behind it: `IsDefined()` is true, `as<std::string>()` gives `"null"`, and other conversions throw
`TypedBadConversion`. `operator[]` and `as` on a zombie throw `InvalidNode`. -/

namespace Astron.Config

open Astron.Yaml

/-- A `YAML::Node` handle. -/
inductive Handle where
  | node (n : Nat)  -- A node of the document
  | zombie  -- The zombie of a const `operator[]` that found nothing
  | empty  -- `YAML::Node()`: no node behind it, valid, defined and null
deriving DecidableEq, Repr

/-- The exceptions reading a configuration can end with. -/
inductive ConfigError where
  | invalidNode  -- `YAML::InvalidNode`: `operator[]` or `as` on a zombie
  | yaml (e : YamlException)  -- `BadSubscript` or `TypedBadConversion`
  | runtime (message : String)
  | exit (message : String)  -- `m_log->fatal()` with its message, then `exit(1)`
deriving DecidableEq, Repr

namespace Handle

/-- `IsDefined()`. -/
def isDefined (m : Memory) : Handle → Bool
  | .node n => (m.data n).defined
  | .zombie => false
  | .empty => true

/-- `IsScalar()`, on a handle that is defined. -/
def isScalar (m : Memory) : Handle → Bool
  | .node n => m.typeOf n = .scalar
  | _ => false

/-- `Scalar()`. -/
def scalar (m : Memory) : Handle → String
  | .node n => (m.data n).scalar
  | _ => ""

/-- The const `operator[](key)`. On `YAML::Node()` it first makes a null node, which has no
key. -/
def get (m : Memory) (h : Handle) (key : String) : Except ConfigError Handle :=
  match h with
  | .node n =>
    match m.find n key with
    | .ok (some v) => .ok (.node v)
    | .ok none => .ok .zombie
    | .error e => .error (.yaml e)
  | .zombie => .error .invalidNode
  | .empty => .ok .zombie

/-- `as<std::string>()`. -/
def asString (m : Memory) : Handle → Except ConfigError String
  | .node n =>
    match m.asString n with
    | .ok value => .ok value
    | .error e => .error (.yaml e)
  | .zombie => .error .invalidNode
  | .empty => .ok "null"

/-- `as<T>()` for a `T` whose `convert<T>::decode` reads a scalar with `decode`. -/
def asValue {α : Type} (m : Memory) (decode : String → Option α) : Handle → Except ConfigError α
  | .node n =>
    if m.typeOf n = .scalar then
      match decode (m.data n).scalar with
      | some value => .ok value
      | none => .error (.yaml .typedBadConversion)
    else .error (.yaml .typedBadConversion)
  | .zombie => .error .invalidNode
  | .empty => .error (.yaml .typedBadConversion)

end Handle

/-- A `ConfigSection`: `m_node` and `m_path`. -/
structure ConfigSection where
  node : Handle
  path : String
deriving DecidableEq, Repr

namespace ConfigSection

/-- `defined()`: `m_node && m_node.IsDefined()`. -/
def defined (m : Memory) (s : ConfigSection) : Bool := s.node.isDefined m

/-- `key_path(key)`. -/
def keyPath (s : ConfigSection) (key : String) : String :=
  if s.path = "$" then "$." ++ key else s.path ++ "." ++ key

/-- `resolve(key)`: `YAML::Node()` when `!m_node`, else the const `m_node[key]`. -/
def resolve (m : Memory) (s : ConfigSection) (key : String) : Except ConfigError Handle :=
  if !s.node.isDefined m then .ok .empty else s.node.get m key

/-- `child(key)`. -/
def child (m : Memory) (s : ConfigSection) (key : String) : Except ConfigError ConfigSection := do
  let value ← s.resolve m key
  pure ⟨value, s.keyPath key⟩

/-- `get_optional_as<T>(key)`, with `convert` for `as<T>()`: nothing for a value that is not
defined, and any exception of `as<T>()` rethrown as a `runtime_error` naming the key's path. -/
def getOptionalAs {α : Type} (m : Memory) (s : ConfigSection) (key : String)
    (convert : Handle → Except ConfigError α) : Except ConfigError (Option α) := do
  let value ← s.resolve m key
  if !value.isDefined m then pure none
  else
    match convert value with
    | .ok result => pure (some result)
    | .error _ => throw (.runtime (s.keyPath key ++ ": "))

/-- `get_or<T>(key, fallback)`. -/
def getOr {α : Type} (m : Memory) (s : ConfigSection) (key : String) (fallback : α)
    (convert : Handle → Except ConfigError α) : Except ConfigError α := do
  let value ← s.getOptionalAs m key convert
  pure (value.getD fallback)

end ConfigSection

variable {m : Memory}

theorem Handle.get_node_of_map {n : Nat} (isMap : m.typeOf n = .map) (key : String) :
    (Handle.node n).get m key =
      .ok (match m.lookup n key with
        | some v => .node v
        | none => .zombie) := by
  have type : (m.data n).type = .map := by
    unfold Memory.typeOf at isMap; split at isMap <;> simp_all
  simp only [Handle.get, Memory.find, type]
  cases m.lookup n key <;> rfl

theorem ConfigSection.child_of_map {s : ConfigSection} {n : Nat} (node : s.node = .node n)
    (isMap : m.typeOf n = .map) (key : String) :
    s.child m key = .ok ⟨match m.lookup n key with
        | some v => .node v
        | none => .zombie, s.keyPath key⟩ := by
  have defined : (Handle.node n).isDefined m = true := by
    unfold Memory.typeOf at isMap; split at isMap <;> simp_all [Handle.isDefined]
  simp only [ConfigSection.child, ConfigSection.resolve, node, defined, Bool.not_true,
    Bool.false_eq_true, if_false, Handle.get_node_of_map isMap]
  rfl

theorem ConfigSection.getOr_string_of_undefined {s : ConfigSection}
    (undefined : s.node.isDefined m = false) (key fallback : String) :
    s.getOr m key fallback (Handle.asString m) = .ok "null" := by
  simp only [ConfigSection.getOr, ConfigSection.getOptionalAs, ConfigSection.resolve, undefined,
    Bool.not_false, ↓reduceIte]
  rfl

theorem ConfigSection.getOr_of_not_defined {α : Type} {s : ConfigSection} {n : Nat}
    (node : s.node = .node n) (isMap : m.typeOf n = .map) {key : String}
    (missing : ∀ v, m.lookup n key = some v → (m.data v).defined = false) (fallback : α)
    (convert : Handle → Except ConfigError α) :
    s.getOr m key fallback convert = .ok fallback := by
  have defined : s.node.isDefined m = true := by
    rw [node]; unfold Memory.typeOf at isMap; split at isMap <;> simp_all [Handle.isDefined]
  have resolved := Handle.get_node_of_map isMap key
  rw [← node] at resolved
  simp only [ConfigSection.getOr, ConfigSection.getOptionalAs, ConfigSection.resolve, defined,
    Bool.not_true, Bool.false_eq_true, if_false, resolved]
  cases found : m.lookup n key with
  | none => rfl
  | some v => simp [missing v found, Handle.isDefined, bind, Except.bind, pure, Except.pure]

theorem lookup_undefined_of_keys {n : Nat} {key : String}
    (keys : ∀ kv ∈ m.definedPairs n, ∃ k, m.asString kv.1 = .ok k ∧ k ≠ key) :
    ∀ v, m.lookup n key = some v → (m.data v).defined = false := by
  intro v found
  unfold Memory.lookup at found
  obtain ⟨kv, hit, rfl⟩ := Option.map_eq_some'.mp found
  have named := List.find?_some hit
  simp only [Memory.keyIs, Bool.and_eq_true, decide_eq_true_eq] at named
  have keyDefined : (m.data kv.1).defined = true := by
    have scalar := named.1
    unfold Memory.typeOf at scalar; split at scalar <;> simp_all
  cases defined : (m.data kv.2).defined
  · rfl
  · obtain ⟨k, read, other⟩ := keys kv (List.mem_filter.mpr
      ⟨List.mem_of_find?_eq_some hit, by simp [keyDefined, defined]⟩)
    simp only [Memory.asString, named.1, Except.ok.injEq, named.2] at read
    exact absurd read.symm other

end Astron.Config

import Astron.Config.Yaml

set_option autoImplicit false

/- `ConfigValidator` (src/config/ConfigValidator.cpp) and the schemas `SchemaBuilder` builds
(src/config/ConfigSchema.cpp), over the yaml-cpp memory of `Astron.Yaml`. `validate_node` and
`validate_property` only read the document; `validate_path` walks its dotted path with
`node = node[part]` on a copy of `m_root`, and `validate_role` indexes role entries with the
non-const `operator[]`, so both can change the memory later schemas see. A schema node's
`properties` list is its `std::unordered_map`, in iteration order. The scalar conversions
`as<bool>`, `as<long long>`, `as<unsigned long long>` and `as<double>` are yaml-cpp's and are
parameters. -/

namespace Astron.Config

open Astron.Yaml

/-- `config::SchemaValueType`. -/
inductive SchemaValueType where
  | string
  | bool
  | int
  | uint
  | number
  | object
deriving DecidableEq, Repr

mutual
/-- `config::SchemaNode`: `allow_additional` and the properties by name. -/
inductive SchemaNode where
  | mk (allowAdditional : Bool) (properties : List (String × SchemaProperty))
/-- `config::SchemaProperty`: its type, `required`, `enum_values` and `child`. -/
inductive SchemaProperty where
  | mk (type : SchemaValueType) (required : Bool) (enumValues : List String)
      (child : Option SchemaNode)
end

/-- `config::SchemaKind`. -/
inductive SchemaKind where
  | path
  | role
deriving DecidableEq, Repr

/-- `config::SchemaDefinition`. -/
structure SchemaDefinition where
  kind : SchemaKind
  path : String
  roleType : String
  root : SchemaNode

/-- `SchemaBuilder::add_property`: `m_node.properties[key] = prop`. -/
def SchemaNode.addProperty (key : String) (prop : SchemaProperty) : SchemaNode → SchemaNode
  | .mk allow properties =>
    if properties.any (·.1 = key) then
      .mk allow (properties.map fun kv => if kv.1 = key then (key, prop) else kv)
    else .mk allow (properties ++ [(key, prop)])

/-- `SchemaBuilder::allow_additional`. -/
def SchemaNode.allowAdditional (allow : Bool) : SchemaNode → SchemaNode
  | .mk _ properties => .mk allow properties

/-- A property of a scalar type, as the typed builders add it. -/
def SchemaNode.addScalar (key : String) (type : SchemaValueType) (required : Bool) :
    SchemaNode → SchemaNode :=
  SchemaNode.addProperty key (.mk type required [] none)

/-- `SchemaBuilder::required_string`. -/
def SchemaNode.requiredString (key : String) : SchemaNode → SchemaNode :=
  SchemaNode.addScalar key .string true

/-- `SchemaBuilder::optional_string`. -/
def SchemaNode.optionalString (key : String) : SchemaNode → SchemaNode :=
  SchemaNode.addScalar key .string false

/-- `SchemaBuilder::enum_string`. -/
def SchemaNode.enumString (key : String) (values : List String) (required : Bool) :
    SchemaNode → SchemaNode :=
  SchemaNode.addProperty key (.mk .string required values none)

/-- `SchemaBuilder::required_bool`. -/
def SchemaNode.requiredBool (key : String) : SchemaNode → SchemaNode :=
  SchemaNode.addScalar key .bool true

/-- `SchemaBuilder::optional_bool`. -/
def SchemaNode.optionalBool (key : String) : SchemaNode → SchemaNode :=
  SchemaNode.addScalar key .bool false

/-- `SchemaBuilder::required_int`. -/
def SchemaNode.requiredInt (key : String) : SchemaNode → SchemaNode :=
  SchemaNode.addScalar key .int true

/-- `SchemaBuilder::optional_int`. -/
def SchemaNode.optionalInt (key : String) : SchemaNode → SchemaNode :=
  SchemaNode.addScalar key .int false

/-- `SchemaBuilder::required_uint`. -/
def SchemaNode.requiredUint (key : String) : SchemaNode → SchemaNode :=
  SchemaNode.addScalar key .uint true

/-- `SchemaBuilder::optional_uint`. -/
def SchemaNode.optionalUint (key : String) : SchemaNode → SchemaNode :=
  SchemaNode.addScalar key .uint false

/-- A fresh node with `allow_additional(false)`, filled in by `fn`. -/
def SchemaNode.build (fn : SchemaNode → SchemaNode) : SchemaNode := fn (.mk false [])

/-- `SchemaBuilder::required_object`. -/
def SchemaNode.requiredObject (key : String) (fn : SchemaNode → SchemaNode) :
    SchemaNode → SchemaNode :=
  SchemaNode.addProperty key (.mk .object true [] (some (SchemaNode.build fn)))

/-- `SchemaBuilder::optional_object`. -/
def SchemaNode.optionalObject (key : String) (fn : SchemaNode → SchemaNode) :
    SchemaNode → SchemaNode :=
  SchemaNode.addProperty key (.mk .object false [] (some (SchemaNode.build fn)))

/-- `Schema::object`. -/
def Schema.object (path : String) (fn : SchemaNode → SchemaNode) : SchemaDefinition :=
  ⟨.path, path, "", SchemaNode.build fn⟩

/-- `Schema::role`. -/
def Schema.role (type : String) (fn : SchemaNode → SchemaNode) : SchemaDefinition :=
  ⟨.role, "", type, SchemaNode.build fn⟩

/-- Whether yaml-cpp's `as<bool>`, `as<long long>`, `as<unsigned long long>` and `as<double>`
accept a scalar. -/
structure Decoders where
  bool : String → Bool
  int : String → Bool
  uint : String → Bool
  number : String → Bool

/-- `as<T>()` inside a try of `validate_property`: whether it returns rather than throws. -/
def scalarDecodes (m : Memory) (n : Nat) (decode : String → Bool) : Bool :=
  m.typeOf n = .scalar && decode (m.data n).scalar

/-- A case of `validate_property` that tries `as<T>()` and reports `error` when it throws. -/
def validateScalar (m : Memory) (n : Nat) (decode : String → Bool) (error path : String) :
    Bool × List String :=
  if scalarDecodes m n decode then (true, []) else (false, [path ++ error])

/-- The `allow_additional` loop of `validate_node` over the defined pairs of a mapping: an
error for each key that is no property, and `as<std::string>()` on every key. -/
def checkKeys (m : Memory) (names : List String) (path : String) :
    List (Nat × Nat) → Except YamlException (Bool × List String)
  | [] => .ok (true, [])
  | (k, _) :: pairs => do
    let key ← m.asString k
    let rest ← checkKeys m names path pairs
    if key ∈ names then pure rest
    else pure (false, (path ++ "." ++ key ++ " is not a recognized attribute.") :: rest.2)

/-- A property with no value: an error when it is required. -/
def missingProperty : SchemaProperty → String → Bool × List String
  | .mk _ required _ _, path => if required then (false, [path ++ " is required."]) else (true, [])

/-- `node[name]` in the property loop: `check` on the value when it is defined, and `missing`
otherwise. -/
def withValue (m : Memory) (n : Nat) (name : String) (missing : Bool × List String)
    (check : Nat → Except YamlException (Bool × List String)) :
    Except YamlException (Bool × List String) :=
  match m.lookup n name with
  | some value => if (m.data value).defined then check value else .ok missing
  | none => .ok missing

mutual
/-- `ConfigValidator::validate_node`: whether node `n` conforms, and the errors it adds. -/
def validateNode (dec : Decoders) (m : Memory) (n : Nat) :
    SchemaNode → String → Except YamlException (Bool × List String)
  | .mk allow properties, path =>
    if !(m.data n).defined then .ok (false, [path ++ " is missing."])
    else if m.typeOf n ≠ .map then .ok (false, [path ++ " must be a mapping."])
    else do
      let props ← validateProperties dec m n properties path
      if allow then pure props
      else do
        let keys ← checkKeys m (properties.map Prod.fst) path (m.definedPairs n)
        pure (props.1 && keys.1, props.2 ++ keys.2)
/-- The property loop of `validate_node`. -/
def validateProperties (dec : Decoders) (m : Memory) (n : Nat) :
    List (String × SchemaProperty) → String → Except YamlException (Bool × List String)
  | [], _ => .ok (true, [])
  | (name, prop) :: properties, path => do
    let first ← withValue m n name (missingProperty prop (path ++ "." ++ name))
      fun value => validateProperty dec m value prop (path ++ "." ++ name)
    let rest ← validateProperties dec m n properties path
    pure (first.1 && rest.1, first.2 ++ rest.2)
/-- `ConfigValidator::validate_property` on a present value `n`. -/
def validateProperty (dec : Decoders) (m : Memory) (n : Nat) :
    SchemaProperty → String → Except YamlException (Bool × List String)
  | .mk .string _ enumValues _, path =>
    if m.typeOf n ≠ .scalar then .ok (false, [path ++ " must be a string."])
    else if enumValues.isEmpty || enumValues.contains (m.data n).scalar then .ok (true, [])
    else .ok (false, [path ++ " must be one of [" ++ ", ".intercalate enumValues ++ "]."])
  | .mk .bool _ _ _, path => .ok (validateScalar m n dec.bool " must be a boolean." path)
  | .mk .int _ _ _, path => .ok (validateScalar m n dec.int " must be an integer." path)
  | .mk .uint _ _ _, path =>
    .ok (validateScalar m n dec.uint " must be an unsigned integer." path)
  | .mk .number _ _ _, path => .ok (validateScalar m n dec.number " must be numeric." path)
  | .mk .object _ _ none, path => .ok (false, [path ++ " schema missing child definition."])
  | .mk .object _ _ (some child), path => validateNode dec m n child path
end

/-- The parts the loop of `validate_path` visits in a dotted path, from a part of which
`part` has been read: the text up to each dot, and the text after the last dot unless it is
empty. -/
def pathParts (part : List Char) : List Char → List String
  | [] => if part.isEmpty then [] else [String.mk part]
  | '.' :: rest => String.mk part :: pathParts [] rest
  | c :: rest => pathParts (part ++ [c]) rest

/-- The loop of `validate_path`: `node = node[part]` for each part, with `path` the text of
the `path` stream so far (`$.a.b`). It stops with the error for the first part that is not
defined, or gives the node and path it reached. -/
def walkPath (defPath : String) (m : Memory) (node : Nat) (path : String) :
    List String → Except YamlException (Memory × (Nat × String ⊕ String))
  | [] => .ok (m, .inl (node, path))
  | part :: parts => do
    let found ← m.subscript node part
    let assigned := found.1.assign node found.2
    let path := path ++ "." ++ part
    if !(assigned.1.data assigned.2).defined then
      .ok (assigned.1, .inr ("Config: Expected section '" ++ defPath ++ "', but '" ++
        path.drop 2 ++ "' is missing."))
    else walkPath defPath assigned.1 assigned.2 path parts

/-- `ConfigValidator::validate_path` from the root node `root`: the memory after it and the
errors it adds. -/
def validatePath (dec : Decoders) (m : Memory) (root : Nat) (def_ : SchemaDefinition) :
    Except YamlException (Memory × List String) := do
  let walked ← walkPath def_.path m root "$" (pathParts [] def_.path.toList)
  match walked.2 with
  | .inr error => pure (walked.1, [error])
  | .inl (node, path) => do
    let checked ← validateNode dec walked.1 node def_.root path
    pure (walked.1, checked.2)

/-- The loop of `validate_role` over the entries of `roles`, from index `idx`: `entry["type"]`
through the non-const `operator[]`, the error of an entry without a type, and `validate_node`
on each entry of the role's type. Gives the memory after it, whether an entry of the type was
found, and the errors. The second `entry["type"]` finds the pair the first one found. -/
def roleEntries (dec : Decoders) (def_ : SchemaDefinition) (m : Memory) (idx : Nat) :
    List Nat → Except YamlException (Memory × Bool × List String)
  | [] => .ok (m, false, [])
  | entry :: entries => do
    let type ← m.subscript entry "type"
    if !(type.1.data type.2).defined then
      let rest ← roleEntries dec def_ type.1 (idx + 1) entries
      pure (rest.1, rest.2.1,
        ("Config: roles[" ++ toString idx ++ "] missing 'type' attribute.") :: rest.2.2)
    else do
      let name ← type.1.asString type.2
      if name ≠ def_.roleType then roleEntries dec def_ type.1 (idx + 1) entries
      else do
        let checked ← validateNode dec type.1 entry def_.root
          ("$.roles[" ++ toString idx ++ "](" ++ name ++ ")")
        let rest ← roleEntries dec def_ type.1 (idx + 1) entries
        pure (rest.1, true, checked.2 ++ rest.2.2)

/-- `ConfigValidator::validate_role` from the root node `root`. The entries are those
`roles.size()` counts; an entry's `operator[]` never changes which node `roles[idx]` gives. -/
def validateRole (dec : Decoders) (m : Memory) (root : Nat) (def_ : SchemaDefinition) :
    Except YamlException (Memory × List String) := do
  let roles ← m.find root "roles"
  match roles with
  | none => pure (m, ["Config: 'roles' must be a list."])
  | some roles =>
    if !(m.data roles).defined || m.typeOf roles ≠ .sequence then
      pure (m, ["Config: 'roles' must be a list."])
    else do
      let visited ← roleEntries dec def_ m 0 ((m.data roles).sequence.take (m.sequenceSize roles))
      if visited.2.1 then pure (visited.1, visited.2.2)
      else pure (visited.1, visited.2.2 ++
        ["Config: No role with type '" ++ def_.roleType ++ "' found in roles list."])

/-- `ConfigValidator::validate_definition`. -/
def validateDefinition (dec : Decoders) (m : Memory) (root : Nat) (def_ : SchemaDefinition) :
    Except YamlException (Memory × List String) :=
  match def_.kind with
  | .role => validateRole dec m root def_
  | .path => validatePath dec m root def_

/-- The loop of `ConfigValidator::validate` over the registered schemas, appending to
`errors`. -/
def validateAll (dec : Decoders) (root : Nat) :
    Memory → List String → List SchemaDefinition → Except YamlException (Memory × List String)
  | m, errors, [] => .ok (m, errors)
  | m, errors, def_ :: schemas => do
    let added ← validateDefinition dec m root def_
    validateAll dec root added.1 (errors ++ added.2) schemas

/-- `ConfigValidator::validate(errors)` on the document `doc` with `m_schemas = schemas`:
`errors.empty()` and the errors, or the exception it throws. -/
def validate (dec : Decoders) (doc : Doc) (schemas : List SchemaDefinition)
    (errors : List String) : Except YamlException (Bool × List String) := do
  let done ← validateAll dec doc.parse.2 doc.parse.1 errors schemas
  pure (done.2.isEmpty, done.2)

@[simp] theorem ok_bind {ε α β : Type} (a : α) (f : α → Except ε β) :
    (Except.ok a >>= f) = f a := rfl

@[simp] theorem except_pure {ε α : Type} (a : α) : (pure a : Except ε α) = .ok a := rfl

@[simp] theorem bind_ok_right {ε α : Type} (x : Except ε α) : (x >>= Except.ok) = x := by
  cases x <;> rfl

/-- A property that may be absent. -/
def Optional : SchemaProperty → Prop
  | .mk _ required _ _ => required = false

/-- The key `name` of node `n` has a defined value that `conforms`, or none and `absent`
holds. -/
def Present (m : Memory) (n : Nat) (name : String) (absent : Prop) (conforms : Nat → Prop) :
    Prop :=
  match m.lookup n name with
  | some value => if (m.data value).defined then conforms value else absent
  | none => absent

mutual
/-- Node `n` conforms to a schema node: it is a mapping, every property conforms, and unless
`allow_additional` every key its iterator visits names a property. -/
def Conforms (dec : Decoders) (m : Memory) (n : Nat) : SchemaNode → Prop
  | .mk allow properties =>
    m.typeOf n = .map ∧ PropertiesConform dec m n properties ∧
      (allow = false → ∀ kv ∈ m.definedPairs n,
        ∃ key, m.asString kv.1 = .ok key ∧ key ∈ properties.map Prod.fst)
/-- Every property conforms. -/
def PropertiesConform (dec : Decoders) (m : Memory) (n : Nat) :
    List (String × SchemaProperty) → Prop
  | [] => True
  | (name, prop) :: properties =>
    Present m n name (Optional prop) (fun value => ValueConforms dec m value prop) ∧
      PropertiesConform dec m n properties
/-- A present value has the declared type: a scalar in the enum for a string, a scalar that
converts for a boolean or a number, a conforming mapping for an object. -/
def ValueConforms (dec : Decoders) (m : Memory) (value : Nat) : SchemaProperty → Prop
  | .mk .string _ enumValues _ =>
    m.typeOf value = .scalar ∧ (enumValues = [] ∨ (m.data value).scalar ∈ enumValues)
  | .mk .bool _ _ _ => m.typeOf value = .scalar ∧ dec.bool (m.data value).scalar = true
  | .mk .int _ _ _ => m.typeOf value = .scalar ∧ dec.int (m.data value).scalar = true
  | .mk .uint _ _ _ => m.typeOf value = .scalar ∧ dec.uint (m.data value).scalar = true
  | .mk .number _ _ _ => m.typeOf value = .scalar ∧ dec.number (m.data value).scalar = true
  | .mk .object _ _ none => False
  | .mk .object _ _ (some child) => Conforms dec m value child
end

/-- Every map pair whose key and value are defined has a scalar or null key, so
`as<std::string>()` returns on every key a map iterator visits. -/
def KeysPlain (m : Memory) : Prop :=
  ∀ d ∈ m.datas, ∀ kv ∈ d.map, (m.data kv.1).defined = true → (m.data kv.2).defined = true →
    m.typeOf kv.1 = .scalar ∨ m.typeOf kv.1 = .null

instance (m : Memory) : Decidable (KeysPlain m) := by unfold KeysPlain; infer_instance

theorem KeysPlain.definedPairs {m : Memory} (plain : KeysPlain m) (n : Nat) :
    ∀ kv ∈ m.definedPairs n, m.typeOf kv.1 = .scalar ∨ m.typeOf kv.1 = .null := by
  intro kv mem
  simp only [Memory.definedPairs, List.mem_filter, Bool.and_eq_true] at mem
  obtain ⟨inMap, keyDefined, valueDefined⟩ := mem
  rcases m.data_mem_or_fresh n with stored | fresh
  · exact plain _ stored kv inMap keyDefined valueDefined
  · simp [fresh, NodeData.fresh] at inMap

/-- What a loop of the validator gives back when it returns: a verdict that is true exactly
when it adds no error, and exactly when `spec` holds. -/
def Decides (result : Except YamlException (Bool × List String)) (spec : Prop) : Prop :=
  ∃ ok errors, result = .ok (ok, errors) ∧ (ok = true ↔ errors = []) ∧ (ok = true ↔ spec)

theorem asString_of_plain {m : Memory} {k : Nat}
    (plain : m.typeOf k = .scalar ∨ m.typeOf k = .null) : ∃ key, m.asString k = .ok key := by
  rcases plain with plain | plain <;> simp [Memory.asString, plain]

theorem checkKeys_decides (m : Memory) (names : List String) (path : String)
    (pairs : List (Nat × Nat))
    (plain : ∀ kv ∈ pairs, m.typeOf kv.1 = .scalar ∨ m.typeOf kv.1 = .null) :
    Decides (checkKeys m names path pairs)
      (∀ kv ∈ pairs, ∃ key, m.asString kv.1 = .ok key ∧ key ∈ names) := by
  induction pairs with
  | nil => exact ⟨true, [], rfl, by simp, by simp⟩
  | cons kv pairs ih =>
    obtain ⟨key, named⟩ := asString_of_plain (plain kv (.head _))
    obtain ⟨ok, errors, rest, empty, spec⟩ := ih fun kv' mem => plain kv' (.tail _ mem)
    by_cases known : key ∈ names
    · refine ⟨ok, errors, by simp [checkKeys, named, rest, known], empty, ?_⟩
      simp [spec, named, known]
    · refine ⟨false, (path ++ "." ++ key ++ " is not a recognized attribute.") :: errors,
        by simp [checkKeys, named, rest, known], by simp, ?_⟩
      simp [named, known]

theorem Decides.fail {message : String} {spec : Prop} (no : ¬spec) :
    Decides (.ok (false, [message])) spec :=
  ⟨false, [message], rfl, by simp, by simpa using no⟩

theorem Decides.pass {spec : Prop} (yes : spec) : Decides (.ok (true, [])) spec :=
  ⟨true, [], rfl, by simp, by simpa using yes⟩

theorem Decides.and {first second : Except YamlException (Bool × List String)} {P Q : Prop}
    (decidesP : Decides first P) (decidesQ : Decides second Q) :
    Decides (do
      let a ← first
      let b ← second
      pure (a.1 && b.1, a.2 ++ b.2)) (P ∧ Q) := by
  obtain ⟨ok₁, errors₁, rfl, empty₁, spec₁⟩ := decidesP
  obtain ⟨ok₂, errors₂, rfl, empty₂, spec₂⟩ := decidesQ
  refine ⟨ok₁ && ok₂, errors₁ ++ errors₂, rfl, ?_, ?_⟩ <;>
    cases ok₁ <;> cases ok₂ <;> simp_all

theorem missingProperty_decides (prop : SchemaProperty) (path : String) :
    Decides (.ok (missingProperty prop path)) (Optional prop) := by
  obtain ⟨type, required, enumValues, child⟩ := prop
  cases required
  · exact Decides.pass rfl
  · exact Decides.fail nofun

theorem withValue_decides {m : Memory} {n : Nat} {name : String} {missing : Bool × List String}
    {check : Nat → Except YamlException (Bool × List String)} {absent : Prop}
    {conforms : Nat → Prop} (decidesMissing : Decides (.ok missing) absent)
    (decidesCheck : ∀ value, Decides (check value) (conforms value)) :
    Decides (withValue m n name missing check) (Present m n name absent conforms) := by
  unfold withValue Present
  split
  · split
    · exact decidesCheck _
    · exact decidesMissing
  · exact decidesMissing

theorem validateScalar_decides (m : Memory) (n : Nat) (decode : String → Bool)
    (error path : String) :
    Decides (.ok (validateScalar m n decode error path))
      (m.typeOf n = .scalar ∧ decode (m.data n).scalar = true) := by
  unfold validateScalar scalarDecodes
  split_ifs with decodes
  · exact Decides.pass (by simpa using decodes)
  · exact Decides.fail fun ⟨scalar, decoded⟩ => decodes (by simp [scalar, decoded])

mutual
theorem validateNode_decides (dec : Decoders) (m : Memory) (plain : KeysPlain m) (n : Nat) :
    (schema : SchemaNode) → (path : String) →
      Decides (validateNode dec m n schema path) (Conforms dec m n schema)
  | .mk allow properties, path => by
    rw [validateNode]
    by_cases isMap : m.typeOf n = .map
    · have defined : (m.data n).defined = true := by
        by_contra undefined
        simp [Memory.typeOf, undefined] at isMap
      simp only [defined, Bool.not_true, Bool.false_eq_true, if_false, isMap, ne_eq,
        not_true_eq_false]
      have props := validateProperties_decides dec m plain n properties path
      cases allow
      · have keys := checkKeys_decides m (properties.map Prod.fst) path (m.definedPairs n)
          (plain.definedPairs n)
        simpa [Conforms, isMap] using props.and keys
      · simpa [Conforms, isMap] using props
    · have fails : ¬Conforms dec m n (.mk allow properties) := fun conforms => isMap conforms.1
      split_ifs <;> exact Decides.fail fails
theorem validateProperties_decides (dec : Decoders) (m : Memory) (plain : KeysPlain m)
    (n : Nat) : (properties : List (String × SchemaProperty)) → (path : String) →
      Decides (validateProperties dec m n properties path) (PropertiesConform dec m n properties)
  | [], _ => Decides.pass trivial
  | (name, prop) :: properties, path => by
    rw [validateProperties, PropertiesConform]
    exact (withValue_decides (missingProperty_decides prop _)
      fun value => validateProperty_decides dec m plain value prop _).and
      (validateProperties_decides dec m plain n properties path)
theorem validateProperty_decides (dec : Decoders) (m : Memory) (plain : KeysPlain m)
    (value : Nat) : (prop : SchemaProperty) → (path : String) →
      Decides (validateProperty dec m value prop path) (ValueConforms dec m value prop)
  | .mk .string _ enumValues _, path => by
    rw [validateProperty, ValueConforms]
    split_ifs with scalar listed
    · exact Decides.fail fun conforms => scalar conforms.1
    · refine Decides.pass ⟨of_not_not scalar, ?_⟩
      simpa [List.isEmpty_iff] using listed
    · refine Decides.fail fun conforms => listed ?_
      simpa [List.isEmpty_iff] using conforms.2
  | .mk .bool _ _ _, path => validateScalar_decides m value _ _ path
  | .mk .int _ _ _, path => validateScalar_decides m value _ _ path
  | .mk .uint _ _ _, path => validateScalar_decides m value _ _ path
  | .mk .number _ _ _, path => validateScalar_decides m value _ _ path
  | .mk .object _ _ none, path => Decides.fail id
  | .mk .object _ _ (some child), path => validateNode_decides dec m plain value child path
end

/-- `{a: {}, c: {}}`. -/
def twoSections : Doc := .map [(.scalar "a", .map []), (.scalar "c", .map [])]

/-- `{roles: [{type: x}], a: {}}`. -/
def roleAndSection : Doc :=
  .map [(.scalar "roles", .seq [.map [(.scalar "type", .scalar "x")]]), (.scalar "a", .map [])]

/-- The Role schema `x` whose entries have only a required string `type`. -/
def roleX : SchemaDefinition := Schema.role "x" (SchemaNode.requiredString "type")

/-- On a document whose map keys are scalars or null, `validate_node` never throws: it
returns true exactly when it adds no error, and exactly when the node is a mapping with every
required property, every present property of its declared type (a scalar in the enum, a
scalar that converts, a conforming mapping), and, unless `allow_additional`, no other key. -/
theorem validateNode_iff_conforms (dec : Decoders) (m : Memory) (plain : KeysPlain m) (n : Nat)
    (schema : SchemaNode) (path : String) :
    ∃ ok errors, validateNode dec m n schema path = .ok (ok, errors) ∧
      (ok = true ↔ errors = []) ∧ (ok = true ↔ Conforms dec m n schema) :=
  validateNode_decides dec m plain n schema path

/-- Decoders under which no scalar converts. -/
def noConversions : Decoders := ⟨fun _ => false, fun _ => false, fun _ => false, fun _ => false⟩

/-- The root of `{a: {}, c: {}}` against a schema with the required object `a` only: `c` is not
a recognized attribute. -/
theorem validateNode_iff_conforms_sections :
    ∃ ok errors, validateNode noConversions twoSections.parse.1 twoSections.parse.2
        (SchemaNode.build (SchemaNode.requiredObject "a" id)) "$" = .ok (ok, errors) ∧
      (ok = true ↔ errors = []) ∧
      (ok = true ↔ Conforms noConversions twoSections.parse.1 twoSections.parse.2
        (SchemaNode.build (SchemaNode.requiredObject "a" id))) :=
  validateNode_iff_conforms noConversions _ (by decide) _ _ _

/-- The document `{a: {}, c: {}}` conforms to the Path schemas `a` and `c`, and each validates
alone. Registered together, `validate_path` for `a` rebinds the node `m_root` shares to the
section `a`, so the schema `c` looks for `c` inside `a` and fails. With `{roles: [{type: x}],
a: {}}`, the Role schema `x` and the Path schema `a` validate in one order and fail in the
other. With `{a: 5}`, the Path schema `a.b` makes `validate` throw `BadSubscript`. -/
theorem validate_rebinds_root (dec : Decoders) :
    validate dec twoSections [Schema.object "a" id] [] = .ok (true, []) ∧
    validate dec twoSections [Schema.object "c" id] [] = .ok (true, []) ∧
    validate dec twoSections [Schema.object "a" id, Schema.object "c" id] [] =
      .ok (false, ["Config: Expected section 'c', but 'c' is missing."]) ∧
    validate dec roleAndSection [roleX, Schema.object "a" id] [] = .ok (true, []) ∧
    validate dec roleAndSection [Schema.object "a" id, roleX] [] =
      .ok (false, ["Config: 'roles' must be a list."]) ∧
    validate dec (.map [(.scalar "a", .scalar "5")]) [Schema.object "a.b" id] [] =
      .error .badSubscript :=
  ⟨rfl, rfl, rfl, rfl, rfl, rfl⟩

end Astron.Config

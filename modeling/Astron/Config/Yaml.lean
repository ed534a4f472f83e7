import Mathlib.Data.List.Basic

set_option autoImplicit false

/- The part of yaml-cpp's node model (0.7 and later; the library is not under src/) that
`ConfigValidator` (src/config/ConfigValidator.cpp) relies on. A `YAML::Node` is a handle on a
`detail::node`; each `detail::node` points to a `node_ref`, which holds a `node_data`. Copying
a handle shares its node. `Node::operator=` on a handle that already has a node calls
`set_ref`, which points that shared node at the right-hand side's `node_ref`: every other
handle on the node, such as `m_root`, then sees the right-hand side's data. The non-const
`operator[]` turns a null, undefined or sequence node into a map and inserts a missing key with
an undefined value; on a scalar it throws `BadSubscript`, as the const one does.

Memory holders, marks and the dependency lists that mark a parent defined once a child becomes
defined are left out: in the validator's calls an undefined node only ever gets undefined
children, so those lists never mark anything. A handle from a const lookup that found nothing
(a zombie node) is `none`. -/

namespace Astron.Yaml

/-- `YAML::NodeType::value`. -/
inductive NodeType where
  | undefined
  | null
  | scalar
  | sequence
  | map
deriving DecidableEq, Repr

/-- `detail::node_data`: whether it is defined, its type, and its scalar, sequence elements
and map pairs (in `m_map` order), as node numbers. -/
structure NodeData where
  defined : Bool
  type : NodeType
  scalar : String
  sequence : List Nat
  map : List (Nat × Nat)
deriving DecidableEq, Repr

/-- A node from `memory::create_node`: not defined, of type null. -/
def NodeData.fresh : NodeData := ⟨false, .null, "", [], []⟩

/-- The memory of a document: `refs` gives each node's `node_ref`, `datas` each
`node_ref`'s data. -/
structure Memory where
  refs : List Nat
  datas : List NodeData
deriving DecidableEq, Repr

/-- The exceptions the validator's calls into yaml-cpp can throw. -/
inductive YamlException where
  | badSubscript  -- `operator[]` on a scalar
  | typedBadConversion  -- `as<std::string>()` on a sequence or a map
deriving DecidableEq, Repr

namespace Memory

/-- The `node_ref` of node `n`. -/
def refOf (m : Memory) (n : Nat) : Nat := m.refs.getD n 0

/-- The data node `n` sees. -/
def data (m : Memory) (n : Nat) : NodeData := m.datas.getD (m.refOf n) .fresh

theorem data_mem_or_fresh (m : Memory) (n : Nat) : m.data n ∈ m.datas ∨ m.data n = .fresh := by
  unfold Memory.data
  rw [List.getD_eq_getElem?_getD]
  cases found : m.datas[m.refOf n]? with
  | none => exact .inr rfl
  | some d => exact .inl (List.getElem?_mem found)

/-- `node::type()`: undefined unless the data is defined. -/
def typeOf (m : Memory) (n : Nat) : NodeType :=
  if (m.data n).defined then (m.data n).type else .undefined

/-- Replace the data node `n` sees, for every node sharing its `node_ref`. -/
def setData (m : Memory) (n : Nat) (d : NodeData) : Memory :=
  { m with datas := m.datas.set (m.refOf n) d }

/-- `memory::create_node` with data `d`: a new node on a new `node_ref`. -/
def createNode (m : Memory) (d : NodeData) : Memory × Nat :=
  (⟨m.refs ++ [m.datas.length], m.datas ++ [d]⟩, m.refs.length)

/-- `node::set_ref(rhs)`: node `n` now shares the `node_ref` of node `rhs`. -/
def setRef (m : Memory) (n rhs : Nat) : Memory := { m with refs := m.refs.set n (m.refOf rhs) }

/-- `node::equals(key)`: the key node decodes as the string `key`. -/
def keyIs (m : Memory) (k : Nat) (key : String) : Bool :=
  m.typeOf k = .scalar && (m.data k).scalar = key

/-- The value paired with `key` in node `n`'s `m_map`, defined or not. -/
def lookup (m : Memory) (n : Nat) (key : String) : Option Nat :=
  ((m.data n).map.find? fun kv => m.keyIs kv.1 key).map Prod.snd

/-- The const `operator[](key)`: `none` is the zombie node a missing key gives. -/
def find (m : Memory) (n : Nat) (key : String) : Except YamlException (Option Nat) :=
  match (m.data n).type with
  | .map => .ok (m.lookup n key)
  | .scalar => .error .badSubscript
  | _ => .ok none

/-- `node_data::convert_sequence_to_map`: each element keyed by its index. -/
def indexPairs (m : Memory) : Nat → List Nat → Memory × List (Nat × Nat)
  | _, [] => (m, [])
  | i, elem :: elems =>
    let key := m.createNode ⟨true, .scalar, toString i, [], []⟩
    let rest := indexPairs key.1 (i + 1) elems
    (rest.1, (key.2, elem) :: rest.2)

/-- `node_data::convert_to_map`. -/
def convertToMap (m : Memory) (n : Nat) : Memory :=
  match (m.data n).type with
  | .undefined | .null => m.setData n { m.data n with type := .map, map := [], sequence := [] }
  | .sequence =>
    let pairs := indexPairs m 0 (m.data n).sequence
    pairs.1.setData n { pairs.1.data n with type := .map, map := pairs.2, sequence := [] }
  | _ => m

/-- The value of `key` in map node `n`, inserted undefined (with a new scalar key node) when
missing. -/
def getOrInsert (m : Memory) (n : Nat) (key : String) : Memory × Nat :=
  match m.lookup n key with
  | some v => (m, v)
  | none =>
    let k := m.createNode ⟨true, .scalar, key, [], []⟩
    let v := k.1.createNode .fresh
    (v.1.setData n { v.1.data n with map := (v.1.data n).map ++ [(k.2, v.2)] }, v.2)

/-- The non-const `operator[](key)`. -/
def subscript (m : Memory) (n : Nat) (key : String) : Except YamlException (Memory × Nat) :=
  match (m.data n).type with
  | .scalar => .error .badSubscript
  | .map => .ok (m.getOrInsert n key)
  | _ => .ok ((m.convertToMap n).getOrInsert n key)

/-- `Node::operator=(rhs)` on a handle on node `n`: nothing when both already share a
`node_ref` (`is(rhs)`), otherwise `set_ref`, and the handle moves to `rhs`. -/
def assign (m : Memory) (n rhs : Nat) : Memory × Nat :=
  if m.refOf n = m.refOf rhs then (m, n) else (m.setRef n rhs, rhs)

/-- `as<std::string>()`: `"null"` for a null node, the scalar for a scalar, and
`TypedBadConversion` otherwise. -/
def asString (m : Memory) (n : Nat) : Except YamlException String :=
  match m.typeOf n with
  | .null => .ok "null"
  | .scalar => .ok (m.data n).scalar
  | _ => .error .typedBadConversion

/-- `Node::size()` of a sequence: its elements up to the first undefined one. -/
def sequenceSize (m : Memory) (n : Nat) : Nat :=
  ((m.data n).sequence.takeWhile fun e => (m.data e).defined).length

/-- The pairs a map iterator visits: those whose key and value are defined. -/
def definedPairs (m : Memory) (n : Nat) : List (Nat × Nat) :=
  (m.data n).map.filter fun kv => (m.data kv.1).defined && (m.data kv.2).defined

end Memory

/-- A parsed YAML document. -/
inductive Doc where
  | null
  | scalar (value : String)
  | seq (items : List Doc)
  | map (pairs : List (Doc × Doc))
deriving Repr

mutual
/-- `YAML::Load`: the nodes of a document, children first, each on its own `node_ref`. -/
def Memory.load (m : Memory) : Doc → Memory × Nat
  | .null => m.createNode ⟨true, .null, "", [], []⟩
  | .scalar value => m.createNode ⟨true, .scalar, value, [], []⟩
  | .seq items =>
    let loaded := m.loadItems items
    loaded.1.createNode ⟨true, .sequence, "", loaded.2, []⟩
  | .map pairs =>
    let loaded := m.loadPairs pairs
    loaded.1.createNode ⟨true, .map, "", [], loaded.2⟩
/-- The elements of a sequence. -/
def Memory.loadItems (m : Memory) : List Doc → Memory × List Nat
  | [] => (m, [])
  | item :: items =>
    let first := m.load item
    let rest := first.1.loadItems items
    (rest.1, first.2 :: rest.2)
/-- The pairs of a map. -/
def Memory.loadPairs (m : Memory) : List (Doc × Doc) → Memory × List (Nat × Nat)
  | [] => (m, [])
  | (key, value) :: pairs =>
    let k := m.load key
    let v := k.1.load value
    let rest := v.1.loadPairs pairs
    (rest.1, (k.2, v.2) :: rest.2)
end

/-- The memory and the root node of a loaded document. -/
def Doc.parse (doc : Doc) : Memory × Nat := Memory.load ⟨[], []⟩ doc

end Astron.Yaml

import Astron.Util.Datagram
import Mathlib.Data.List.Perm.Basic

set_option autoImplicit false

/- The MongoDB backend of the database server (src/database/MongoDatabase.cpp). The database is
seen through the commands the backend sends, each atomic: a `findandmodify` returns the
document as it was before its update, and the backend is the only writer of `astron.objects`
and `astron.globals`. A document of `astron.objects` is `{_id, dclass, fields}`, each field
holding a field's packed value as binary data (`unpack_bson`, `pack_bson`), here the bytes
themselves; `_id` is unique, as MongoDB's index on it keeps it. The globals document holds
`doid.monotonic` and the list `doid.free`. Of MongoDB's update language the model has what the
backend sends: `$inc`, `$push` and `$pop` on the globals, `$set` and `$unset` of `fields.<name>`,
and an update document with no operator, which replaces the whole document but its `_id`.
A field of a .dc class is known by its name; the class lookup `g_dcf->get_class_by_name` with
the operation's `verify_class` is a parameter. Driver errors (`bson::assertion`) are not
modelled. -/

namespace Astron.MongoDatabase

/-- `INVALID_DO_ID` (core/types.h). -/
def invalidDoId : Nat := 0

/-- A `std::map` from fields to packed values, with the fields known by name: no name twice. -/
structure FieldMap where
  entries : List (String × Bytes)
  distinct : (entries.map Prod.fst).Nodup

/-- A document of `astron.objects` without its `_id`. A replacement by an update with no
operator leaves a document with neither `dclass` nor `fields`. -/
structure StoredObject where
  dclass : Option String
  fields : Option (List (String × Bytes))
deriving DecidableEq, Repr

/-- The database as the backend sees it: the documents of `astron.objects` by `_id`,
`doid.monotonic` and `doid.free` of the globals document, and `m_monotonic_exhausted`. -/
structure Backend where
  objects : List (Nat × StoredObject)
  monotonic : Nat
  free : List Nat
  monotonicExhausted : Bool
deriving DecidableEq, Repr

/-- The backend once its constructor has inserted the globals document into an empty
database. -/
def Backend.initial (minId : Nat) : Backend := ⟨[], minId, [], false⟩

/-- The document under `_id = doid`, as `findOne` returns it. -/
def findObject (objects : List (Nat × StoredObject)) (doid : Nat) : Option StoredObject :=
  (objects.find? fun entry => entry.1 = doid).map Prod.snd

/-- `insert`: a document whose `_id` is taken is refused. -/
def insertObject (objects : List (Nat × StoredObject)) (doid : Nat) (obj : StoredObject) :
    List (Nat × StoredObject) :=
  if objects.any (·.1 = doid) then objects else objects ++ [(doid, obj)]

/-- The document under `_id = doid` replaced by `obj`. -/
def replaceObject (objects : List (Nat × StoredObject)) (doid : Nat) (obj : StoredObject) :
    List (Nat × StoredObject) :=
  objects.map fun entry => if entry.1 = doid then (doid, obj) else entry

@[simp] theorem replaceObject_keys (objects : List (Nat × StoredObject)) (doid : Nat)
    (obj : StoredObject) : (replaceObject objects doid obj).map Prod.fst = objects.map Prod.fst := by
  rw [replaceObject, List.map_map]
  exact List.map_congr_left fun entry _ => by by_cases h : entry.1 = doid <;> simp [h]

/-- The documents but the one under `_id = doid`. -/
def removeObject (objects : List (Nat × StoredObject)) (doid : Nat) : List (Nat × StoredObject) :=
  objects.filter fun entry => entry.1 ≠ doid

/-- `assign_doid_monotonic`: the `findandmodify` that matches the globals while
`min_id <= doid.monotonic <= max_id`, increments the counter, and returns its old value;
`INVALID_DO_ID` when it matches nothing. -/
def assignDoidMonotonic (minId maxId : Nat) (b : Backend) : Nat × Backend :=
  if minId ≤ b.monotonic ∧ b.monotonic ≤ maxId then
    (b.monotonic, { b with monotonic := b.monotonic + 1 })
  else (invalidDoId, b)

/-- `assign_doid_reuse`: the `findandmodify` that pops the front of a nonempty `doid.free` and
returns it. -/
def assignDoidReuse (b : Backend) : Nat × Backend :=
  match b.free with
  | doid :: rest => (doid, { b with free := rest })
  | [] => (invalidDoId, b)

/-- `assign_doid`: the counter until it gives `INVALID_DO_ID` once, the free list after. -/
def assignDoid (minId maxId : Nat) (b : Backend) : Nat × Backend :=
  if !b.monotonicExhausted then
    let monotonic := assignDoidMonotonic minId maxId b
    if monotonic.1 = invalidDoId then assignDoidReuse { monotonic.2 with monotonicExhausted := true }
    else monotonic
  else assignDoidReuse b

/-- `free_doid`: `$push` onto `doid.free`. -/
def freeDoid (b : Backend) (doid : Nat) : Backend := { b with free := b.free ++ [doid] }

/-- `MongoDatabase::handle_create`: the DOID passed to `on_complete`, or `none` for
`on_failure`. -/
def handleCreate (minId maxId : Nat) (b : Backend) (dclass : String) (fields : FieldMap) :
    Option Nat × Backend :=
  let assigned := assignDoid minId maxId b
  if assigned.1 = invalidDoId then (none, assigned.2)
  else
    (some assigned.1, { assigned.2 with
      objects := insertObject assigned.2.objects assigned.1 ⟨some dclass, some fields.entries⟩ })

/-- `MongoDatabase::handle_delete`: the `findandmodify` that removes the object, then
`free_doid` and `on_complete` (`true`); `on_failure` when there was no such object. -/
def handleDelete (b : Backend) (doid : Nat) : Bool × Backend :=
  match findObject b.objects doid with
  | some _ => (true, freeDoid { b with objects := removeObject b.objects doid } doid)
  | none => (false, b)

/-- An update document of `handle_modify`: `$set` and `$unset` of fields, or no operator. -/
inductive Update where
  | operators (set : List (String × Bytes)) (unset : List String)
  | replacement

/-- The update document `handle_modify` builds: `$set` of the fields given a value, `$unset` of
those given an empty one, and neither key when there are none. -/
def modifyUpdate (sets : List (String × Bytes)) : Update :=
  let setFields := sets.filter fun field => !field.2.isEmpty
  let unsetFields := (sets.filter fun field => field.2.isEmpty).map Prod.fst
  if setFields.isEmpty && unsetFields.isEmpty then .replacement else .operators setFields unsetFields

/-- `$set` of `fields.<name>`: the subdocument is created when missing, the field replaced or
appended. -/
def setField (fields : Option (List (String × Bytes))) (field : String × Bytes) :
    Option (List (String × Bytes)) :=
  match fields with
  | none => some [field]
  | some entries =>
    some (if entries.any (·.1 = field.1) then
      entries.map fun entry => if entry.1 = field.1 then field else entry
    else entries ++ [field])

/-- `$unset` of `fields.<name>`. -/
def unsetField (fields : Option (List (String × Bytes))) (name : String) :
    Option (List (String × Bytes)) :=
  fields.map fun entries => entries.filter fun entry => entry.1 ≠ name

/-- An update applied to a document. -/
def applyUpdate : Update → StoredObject → StoredObject
  | .operators set unset, obj => { obj with fields := unset.foldl unsetField (set.foldl setField obj.fields) }
  | .replacement, _ => ⟨none, none⟩

/-- The value of field `name` of a document. -/
def fieldOf (obj : StoredObject) (name : String) : Option Bytes :=
  obj.fields.bind fun entries => (entries.find? fun entry => entry.1 = name).map Prod.snd

/-- A criterion of `handle_modify`'s query: an empty value asks for the field to be absent
(`$exists: false`), any other for the field to hold it. -/
def criterionHolds (obj : StoredObject) (criterion : String × Bytes) : Bool :=
  if criterion.2.isEmpty then (fieldOf obj criterion.1).isNone
  else fieldOf obj criterion.1 = some criterion.2

/-- The `findandmodify` of `handle_modify`: when the document under `_id = doid` meets the
criteria, that document as it was and the objects after the update. -/
def findAndModify (objects : List (Nat × StoredObject)) (doid : Nat)
    (criteria : List (String × Bytes)) (update : Update) :
    Option (StoredObject × List (Nat × StoredObject)) :=
  match findObject objects doid with
  | some obj =>
    if criteria.all (criterionHolds obj) then
      some (obj, replaceObject objects doid (applyUpdate update obj))
    else none
  | none => none

theorem findAndModify_eq_some {objects : List (Nat × StoredObject)} {doid : Nat}
    {criteria : List (String × Bytes)} {update : Update} {obj : StoredObject}
    {objects' : List (Nat × StoredObject)} :
    findAndModify objects doid criteria update = some (obj, objects') ↔
      findObject objects doid = some obj ∧ criteria.all (criterionHolds obj) = true ∧
        objects' = replaceObject objects doid (applyUpdate update obj) := by
  unfold findAndModify
  split
  · rename_i stored found
    rw [found]
    split_ifs with holds
    · simp only [Option.some.injEq, Prod.mk.injEq]
      constructor
      · rintro ⟨rfl, rfl⟩
        exact ⟨rfl, holds, rfl⟩
      · rintro ⟨rfl, -, rfl⟩
        exact ⟨rfl, rfl⟩
    · exact ⟨False.elim, fun ⟨same, holds', _⟩ =>
        absurd (Option.some.inj same ▸ holds') holds⟩
  · rename_i absent
    simp [absent]

/-- `format_snapshot` gives a snapshot and `verify_class` accepts its class. -/
def snapshotVerifies (verifyClass : String → Bool) (obj : StoredObject) : Bool :=
  match obj.dclass, obj.fields with
  | some dclass, some _ => verifyClass dclass
  | _, _ => false

/-- How `handle_modify` ends. -/
inductive ModifyResult where
  | complete
  | criteriaMismatch
  | failure
deriving DecidableEq, Repr

/-- `MongoDatabase::handle_modify`. `verifyClass name` is the class lookup by name followed by
the operation's `verify_class`. When the updated object's class does not verify, the object as
it was is written back with a replacement `update`. -/
def handleModify (verifyClass : String → Bool) (b : Backend) (doid : Nat)
    (sets criteria : FieldMap) : ModifyResult × Backend :=
  match findAndModify b.objects doid criteria.entries (modifyUpdate sets.entries) with
  | none =>
    if !criteria.entries.isEmpty then
      match findObject b.objects doid with
      | some obj => (if snapshotVerifies verifyClass obj then .criteriaMismatch else .failure, b)
      | none => (.failure, b)
    else (.failure, b)
  | some (obj, objects) =>
    if obj.dclass.any verifyClass then (.complete, { b with objects := objects })
    else (.failure, { b with objects := replaceObject objects doid obj })

/-- The class file as the backend consults it: `get_class_by_name` finds a class by name, and
`get_field_by_name` a field of a class. -/
structure ClassFile where
  hasClass : String → Bool
  hasField : String → String → Bool

/-- A `DBObjectSnapshot`: the class, and `m_fields`, a map from the class's fields to packed
values, here with the fields known by name. -/
structure Snapshot where
  dclass : String
  fields : List (String × Bytes)
deriving DecidableEq, Repr

/-- `format_snapshot`, `none` for `NULL`. A document without a string `dclass` or an object
`fields` raises `bson::assertion`; an unknown class is refused; a field the class does not have
is skipped, and each other is stored into `m_fields`, a later one under the same field over an
earlier. -/
def formatSnapshot (file : ClassFile) (obj : StoredObject) : Option Snapshot :=
  match obj.dclass, obj.fields with
  | some dclass, some entries =>
    if file.hasClass dclass then
      some ⟨dclass, ((entries.filter fun entry => file.hasField dclass entry.1).foldl setField
        (some [])).getD []⟩
    else none
  | _, _ => none

/-- `MongoDatabase::handle_get`, for `GET_OBJECT` and `GET_FIELDS` alike: the snapshot passed
to `on_complete`, or `none` for `on_failure`. `verify` is the operation's `verify_class`. -/
def handleGet (file : ClassFile) (verify : String → Bool) (b : Backend) (doid : Nat) :
    Option Snapshot :=
  match findObject b.objects doid with
  | none => none
  | some obj =>
    match formatSnapshot file obj with
    | some snap => if verify snap.dclass then some snap else none
    | none => none

/-- An operation submitted to the backend. -/
inductive Operation where
  | create (dclass : String) (fields : FieldMap)
  | delete (doid : Nat)
  | modify (doid : Nat) (sets criteria : FieldMap) (verifyClass : String → Bool)

/-- `handle_operation`. -/
def Backend.step (minId maxId : Nat) (b : Backend) : Operation → Backend
  | .create dclass fields => (handleCreate minId maxId b dclass fields).2
  | .delete doid => (handleDelete b doid).2
  | .modify doid sets criteria verifyClass => (handleModify verifyClass b doid sets criteria).2

/-- What an operation reports: the DOID passed to `on_complete` by a create (`none` for
`on_failure`), whether a delete completed, and how a modification ended. -/
inductive Outcome where
  | created (doid : Option Nat)
  | deleted (done : Bool)
  | modified (result : ModifyResult)
deriving DecidableEq, Repr

/-- `handle_operation`, with what the operation reports. -/
def Backend.perform (minId maxId : Nat) (b : Backend) : Operation → Outcome × Backend
  | .create dclass fields =>
    let created := handleCreate minId maxId b dclass fields
    (.created created.1, created.2)
  | .delete doid =>
    let deleted := handleDelete b doid
    (.deleted deleted.1, deleted.2)
  | .modify doid sets criteria verifyClass =>
    let modified := handleModify verifyClass b doid sets criteria
    (.modified modified.1, modified.2)

/-- Operations handled in order, with what each reports. -/
def Backend.performAll (minId maxId : Nat) (b : Backend) : List Operation → List Outcome × Backend
  | [] => ([], b)
  | op :: ops =>
    let first := b.perform minId maxId op
    let rest := first.2.performAll minId maxId ops
    (first.1 :: rest.1, rest.2)

/-- Operations handled in order. -/
def Backend.run (minId maxId : Nat) (b : Backend) (ops : List Operation) : Backend :=
  ops.foldl (Backend.step minId maxId) b

/-- The states operations lead to from a backend with the range `[min_id, max_id]` on an empty
database. -/
inductive Reachable (minId maxId : Nat) : Backend → Prop
  | initial : Reachable minId maxId (Backend.initial minId)
  | step {b : Backend} (op : Operation) : Reachable minId maxId b →
      Reachable minId maxId (b.step minId maxId op)

theorem Reachable.run {minId maxId : Nat} {b : Backend} (reach : Reachable minId maxId b)
    (ops : List Operation) : Reachable minId maxId (b.run minId maxId ops) := by
  induction ops generalizing b with
  | nil => exact reach
  | cons op ops ih => exact ih (reach.step op)

section Doids

variable {minId maxId : Nat}

/-- The DOIDs a state owns: those of the stored objects, then the free list. -/
def Backend.owned (b : Backend) : List Nat := b.objects.map Prod.fst ++ b.free

/-- DOIDs that are distinct, in the range, valid, and below the counter. -/
structure Owned (minId maxId : Nat) (ids : List Nat) (monotonic : Nat) : Prop where
  nodup : ids.Nodup
  inRange : ∀ d ∈ ids, minId ≤ d ∧ d ≤ maxId ∧ d ≠ invalidDoId ∧ d < monotonic
  counter : minId ≤ monotonic

theorem Owned.perm {ids ids' : List Nat} {monotonic : Nat}
    (owned : Owned minId maxId ids monotonic) (perm : ids'.Perm ids) :
    Owned minId maxId ids' monotonic :=
  ⟨perm.nodup_iff.mpr owned.nodup, fun d mem => owned.inRange d (perm.subset mem), owned.counter⟩

/-- What an allocation leaves: `INVALID_DO_ID` with the state's DOIDs still owned, or a DOID
owned together with them. -/
def Allocated (minId maxId : Nat) (r : Nat × Backend) : Prop :=
  if r.1 = invalidDoId then Owned minId maxId r.2.owned r.2.monotonic
  else Owned minId maxId (r.1 :: r.2.owned) r.2.monotonic

theorem assignDoidReuse_allocated {b : Backend} (owned : Owned minId maxId b.owned b.monotonic) :
    Allocated minId maxId (assignDoidReuse b) := by
  unfold assignDoidReuse Allocated
  split
  · rename_i doid rest free
    have valid := (owned.inRange doid (by simp [Backend.owned, free])).2.2.1
    rw [if_neg valid]
    refine owned.perm ?_
    simp only [Backend.owned, free]
    exact List.perm_middle.symm
  · exact owned

theorem assignDoidMonotonic_allocated {b : Backend}
    (owned : Owned minId maxId b.owned b.monotonic) :
    Allocated minId maxId (assignDoidMonotonic minId maxId b) := by
  unfold assignDoidMonotonic Allocated
  by_cases range : minId ≤ b.monotonic ∧ b.monotonic ≤ maxId
  · rw [if_pos range]
    dsimp only
    split_ifs with valid
    · exact ⟨owned.nodup, fun d mem => let old := owned.inRange d mem; ⟨old.1, old.2.1,
        old.2.2.1, by omega⟩, by omega⟩
    · have fresh : b.monotonic ∉ b.owned := fun mem =>
        Nat.lt_irrefl _ (owned.inRange _ mem).2.2.2
      refine ⟨List.nodup_cons.mpr ⟨fresh, owned.nodup⟩, fun d mem => ?_, by omega⟩
      rcases List.mem_cons.mp mem with rfl | mem
      · exact ⟨range.1, range.2, valid, Nat.lt_succ_self _⟩
      · have old := owned.inRange d mem
        exact ⟨old.1, old.2.1, old.2.2.1, by omega⟩
  · rw [if_neg range, if_pos rfl]
    exact owned

theorem assignDoid_allocated {b : Backend} (owned : Owned minId maxId b.owned b.monotonic) :
    Allocated minId maxId (assignDoid minId maxId b) := by
  unfold assignDoid
  split
  · have monotonic := assignDoidMonotonic_allocated owned
    dsimp only
    split
    · rename_i invalid
      rw [Allocated, if_pos invalid] at monotonic
      exact assignDoidReuse_allocated monotonic
    · exact monotonic
  · exact assignDoidReuse_allocated owned

theorem assignDoidReuse_objects (b : Backend) : (assignDoidReuse b).2.objects = b.objects := by
  unfold assignDoidReuse
  split <;> rfl

theorem assignDoidMonotonic_objects (b : Backend) :
    (assignDoidMonotonic minId maxId b).2.objects = b.objects := by
  unfold assignDoidMonotonic
  split_ifs <;> rfl

theorem assignDoid_objects (b : Backend) : (assignDoid minId maxId b).2.objects = b.objects := by
  unfold assignDoid
  split
  · dsimp only
    split
    · rw [assignDoidReuse_objects]
      exact assignDoidMonotonic_objects b
    · exact assignDoidMonotonic_objects b
  · exact assignDoidReuse_objects b

theorem handleCreate_owned {b : Backend} (owned : Owned minId maxId b.owned b.monotonic)
    (dclass : String) (fields : FieldMap) :
    Owned minId maxId (handleCreate minId maxId b dclass fields).2.owned
      (handleCreate minId maxId b dclass fields).2.monotonic ∧
    ∀ doid, (handleCreate minId maxId b dclass fields).1 = some doid →
      minId ≤ doid ∧ doid ≤ maxId ∧ doid ≠ invalidDoId ∧ doid ∉ b.objects.map Prod.fst := by
  have allocated := assignDoid_allocated owned
  have same : (assignDoid minId maxId b).2.objects = b.objects := assignDoid_objects b
  unfold handleCreate
  generalize assignDoid minId maxId b = assigned at allocated same ⊢
  obtain ⟨doid, b'⟩ := assigned
  unfold Allocated at allocated
  dsimp only at allocated same ⊢
  split_ifs at allocated ⊢ with invalid
  · exact ⟨allocated, fun _ none => nomatch none⟩
  · have fresh : doid ∉ b'.objects.map Prod.fst := fun mem =>
      (List.nodup_cons.mp allocated.nodup).1 (List.mem_append_left _ mem)
    have absent : b'.objects.any (·.1 = doid) = false :=
      List.any_eq_false.mpr fun entry mem same =>
        fresh (List.mem_map.mpr ⟨entry, mem, of_decide_eq_true same⟩)
    refine ⟨allocated.perm ?_, fun created some => ?_⟩
    · simp only [Backend.owned, insertObject, absent, Bool.false_eq_true, if_false,
        List.map_append, List.map_singleton, List.append_assoc, List.singleton_append]
      exact List.perm_middle
    · obtain rfl : doid = created := Option.some.inj some
      have range := allocated.inRange doid (List.mem_cons_self _ _)
      exact ⟨range.1, range.2.1, range.2.2.1, same ▸ fresh⟩

theorem perm_cons_filter_ne {l : List Nat} {a : Nat} (nodup : l.Nodup) (mem : a ∈ l) :
    l.Perm (a :: l.filter fun d => d ≠ a) := by
  have same : (l.filter fun d => d ≠ a) = l.filter (· != a) :=
    List.filter_congr fun d _ => by by_cases h : d = a <;> simp [h]
  rw [same, ← nodup.erase_eq_filter]
  exact List.perm_cons_erase mem

theorem findObject_mem {objects : List (Nat × StoredObject)} {doid : Nat} {obj : StoredObject}
    (found : findObject objects doid = some obj) : doid ∈ objects.map Prod.fst := by
  obtain ⟨entry, first, rfl⟩ := Option.map_eq_some'.mp found
  have holds := List.find?_some first
  exact List.mem_map.mpr ⟨entry, List.mem_of_find?_eq_some first, of_decide_eq_true holds⟩

theorem removeObject_keys (objects : List (Nat × StoredObject)) (doid : Nat) :
    (removeObject objects doid).map Prod.fst = (objects.map Prod.fst).filter fun d => d ≠ doid := by
  rw [removeObject, List.filter_map]
  rfl

theorem handleDelete_owned {b : Backend} (owned : Owned minId maxId b.owned b.monotonic)
    (doid : Nat) :
    Owned minId maxId (handleDelete b doid).2.owned (handleDelete b doid).2.monotonic := by
  unfold handleDelete
  split
  · rename_i obj found
    refine owned.perm ?_
    have keys := perm_cons_filter_ne (owned.nodup.sublist (List.sublist_append_left _ _)) (findObject_mem found)
    simp only [Backend.owned, freeDoid, removeObject_keys, ← List.append_assoc]
    exact (List.perm_append_singleton _ _).trans (keys.symm.append_right _)
  · exact owned

theorem handleDelete_frees_absent (b : Backend) (doid : Nat) :
    doid ∉ (handleDelete b doid).2.objects.map Prod.fst := by
  unfold handleDelete
  split
  · simp [freeDoid, removeObject_keys]
  · rename_i absent
    exact fun mem => absurd absent (by simpa [findObject, Option.map_eq_none'] using mem)

theorem handleModify_owned (verifyClass : String → Bool) (b : Backend) (doid : Nat)
    (sets criteria : FieldMap) :
    (handleModify verifyClass b doid sets criteria).2.owned = b.owned ∧
      (handleModify verifyClass b doid sets criteria).2.monotonic = b.monotonic := by
  unfold handleModify
  split
  · split_ifs
    · split <;> exact ⟨rfl, rfl⟩
    · exact ⟨rfl, rfl⟩
  · rename_i obj objects modified
    obtain ⟨-, -, rfl⟩ := findAndModify_eq_some.mp modified
    split_ifs <;> simp [Backend.owned]

theorem Owned.step {b : Backend} (owned : Owned minId maxId b.owned b.monotonic) :
    ∀ op, Owned minId maxId (b.step minId maxId op).owned (b.step minId maxId op).monotonic
  | .create dclass fields => (handleCreate_owned owned dclass fields).1
  | .delete doid => handleDelete_owned owned doid
  | .modify doid sets criteria verifyClass => by
    obtain ⟨keys, counter⟩ := handleModify_owned verifyClass b doid sets criteria
    exact keys ▸ counter ▸ owned

theorem Reachable.owned {b : Backend} (reach : Reachable minId maxId b) :
    Owned minId maxId b.owned b.monotonic := by
  induction reach with
  | initial => exact ⟨List.nodup_nil, fun _ mem => by simp [Backend.owned, Backend.initial] at mem,
      le_refl _⟩
  | step op _ owned => exact owned.step op

/-- From an empty database, whatever operations came before, the DOID `handle_create` passes to
`on_complete` is in `[min_id, max_id]`, valid, and no stored object's; `handle_delete` pushes
onto `doid.free` only the DOID it removed, which no stored object has; and no DOID is both a
stored object's and in `doid.free`. -/
theorem handleCreate_fresh_doid {b : Backend} (reach : Reachable minId maxId b) :
    (∀ dclass fields doid, (handleCreate minId maxId b dclass fields).1 = some doid →
      minId ≤ doid ∧ doid ≤ maxId ∧ doid ≠ invalidDoId ∧ doid ∉ b.objects.map Prod.fst) ∧
    (∀ doid, (handleDelete b doid).1 = true →
      (handleDelete b doid).2.free = b.free ++ [doid] ∧
        doid ∉ (handleDelete b doid).2.objects.map Prod.fst) ∧
    (b.objects.map Prod.fst ++ b.free).Nodup := by
  have owned := reach.owned
  refine ⟨fun dclass fields => (handleCreate_owned owned dclass fields).2, fun doid deleted =>
    ⟨?_, handleDelete_frees_absent b doid⟩, owned.nodup⟩
  unfold handleDelete at deleted ⊢
  split
  · rfl
  · rename_i absent
    simp [absent] at deleted

/-- In `[1, 2]`, after two creations and the deletion of 1, the counter is spent and the next
creation reuses 1, which no stored object has. -/
theorem handleCreate_fresh_doid_reuse :
    let fields : FieldMap := ⟨[], List.nodup_nil⟩
    let b := (Backend.initial 1).run 1 2 [.create "A" fields, .create "A" fields, .delete 1]
    b.objects.map Prod.fst = [2] ∧ (handleCreate 1 2 b "A" fields).1 = some 1 ∧
      (1 ≤ 1 ∧ 1 ≤ 2 ∧ 1 ≠ invalidDoId ∧ 1 ∉ b.objects.map Prod.fst) :=
  ⟨rfl, rfl, (handleCreate_fresh_doid (Reachable.initial.run _)).1 "A" ⟨[], List.nodup_nil⟩ 1 rfl⟩

end Doids

end Astron.MongoDatabase

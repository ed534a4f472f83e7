import Astron.Database.MongoModify
import Mathlib.Algebra.Group.Nat.Basic

set_option autoImplicit false

/- What the MongoDB backend (src/database/MongoDatabase.cpp) is for, and that it does it. A
database server's backend keeps one object per DOID: a create stores the object under a DOID
no object has, from the backend's range, and fails only when every DOID of the range is taken;
a delete removes the object; a modification with at least one field sets and removes exactly
those fields. `DbStep` says this of one operation over the view `DOID → object`, and `DbRun`
of a sequence. The backend refines it when `min_id` is not `INVALID_DO_ID` and `max_id` is
below `2 ^ 31`, where the driver's signed 32-bit BSON ints hold a `doid_t` as the natural
number the model reads. With `min_id = 0` the counter's first DOID is `INVALID_DO_ID`, which
`assign_doid` reads as exhaustion, and no create ever succeeds. -/

namespace Astron.MongoDatabase

/-- The database as a client sees it: the object stored under each DOID. -/
def View : Type := Nat → Option StoredObject

/-- The view of the documents of `astron.objects`. -/
def Backend.view (b : Backend) : View := findObject b.objects

/-- A view with `doid` holding `obj`. -/
def View.set (view : View) (doid : Nat) (obj : Option StoredObject) : View :=
  fun d => if d = doid then obj else view d

theorem findObject_eq_none {objects : List (Nat × StoredObject)} {doid : Nat} :
    findObject objects doid = none ↔ doid ∉ objects.map Prod.fst := by
  simp only [findObject, Option.map_eq_none', List.find?_eq_none, decide_eq_true_eq,
    List.mem_map, not_exists, not_and]

theorem findObject_insertObject {objects : List (Nat × StoredObject)} {doid : Nat}
    (absent : doid ∉ objects.map Prod.fst) (obj : StoredObject) (d : Nat) :
    findObject (insertObject objects doid obj) d =
      if d = doid then some obj else findObject objects d := by
  have fresh : objects.any (·.1 = doid) = false :=
    List.any_eq_false.mpr fun entry mem same =>
      absent (List.mem_map.mpr ⟨entry, mem, of_decide_eq_true same⟩)
  rw [insertObject, fresh, if_neg Bool.false_ne_true]
  exact lookup_append_absent objects (doid, obj) d fresh

theorem findObject_removeObject (objects : List (Nat × StoredObject)) (doid d : Nat) :
    findObject (removeObject objects doid) d = if d = doid then none else findObject objects d :=
  lookup_filter_ne objects doid d

/-- One operation of the abstract database, with what it reports: read off the contract of
`DatabaseBackend` (`on_complete`, `on_failure`, `on_criteria_mismatch`). -/
inductive DbStep (minId maxId : Nat) (view : View) : Operation → Outcome → View → Prop
  | created {dclass : String} {fields : FieldMap} {doid : Nat} :
      minId ≤ doid → doid ≤ maxId → doid ≠ invalidDoId → view doid = none →
      DbStep minId maxId view (.create dclass fields) (.created (some doid))
        (view.set doid (some ⟨some dclass, some fields.entries⟩))
  | full {dclass : String} {fields : FieldMap} :
      (∀ doid, minId ≤ doid → doid ≤ maxId → view doid ≠ none) →
      DbStep minId maxId view (.create dclass fields) (.created none) view
  | deleted {doid : Nat} {obj : StoredObject} : view doid = some obj →
      DbStep minId maxId view (.delete doid) (.deleted true) (view.set doid none)
  | missing {doid : Nat} : view doid = none →
      DbStep minId maxId view (.delete doid) (.deleted false) view
  | modified {doid : Nat} {sets criteria : FieldMap} {verifyClass : String → Bool}
      {before after : StoredObject} :
      view doid = some before → criteria.entries.all (criterionHolds before) = true →
      before.dclass.any verifyClass = true → Modified sets.entries before after →
      DbStep minId maxId view (.modify doid sets criteria verifyClass) (.modified .complete)
        (view.set doid (some after))
  | unmodified {doid : Nat} {sets criteria : FieldMap} {verifyClass : String → Bool}
      {result : ModifyResult} : result ≠ .complete →
      DbStep minId maxId view (.modify doid sets criteria verifyClass) (.modified result) view

/-- A sequence of abstract steps. -/
inductive DbRun (minId maxId : Nat) : View → List Operation → List Outcome → View → Prop
  | nil (view : View) : DbRun minId maxId view [] [] view
  | cons {view view' view'' : View} {op : Operation} {outcome : Outcome} {ops : List Operation}
      {outcomes : List Outcome} :
      DbStep minId maxId view op outcome view' → DbRun minId maxId view' ops outcomes view'' →
      DbRun minId maxId view (op :: ops) (outcome :: outcomes) view''

/-- A modification that names at least one field: with none, `handle_modify` sends the empty
update document, which replaces the object. -/
def Operation.HasFields : Operation → Prop
  | .modify _ sets _ _ => sets.entries ≠ []
  | _ => True

/-- The DOID an operation names, if any. -/
def Operation.target : Operation → Option Nat
  | .create _ _ => none
  | .delete doid => some doid
  | .modify doid _ _ _ => some doid

section Complete

variable {minId maxId : Nat}

/-- Every DOID the counter has passed is still owned, and the counter is given up only once it
is past `max_id`. -/
structure Complete (minId maxId : Nat) (b : Backend) : Prop where
  passed : ∀ d, minId ≤ d → d < b.monotonic → d ∈ b.owned
  spent : b.monotonicExhausted = true → maxId < b.monotonic

/-- What an allocation leaves: each DOID the counter has passed is the one handed out or still
owned, and a spent counter is past `max_id`. -/
def Covers (minId maxId : Nat) (r : Nat × Backend) : Prop :=
  (∀ d, minId ≤ d → d < r.2.monotonic → d = r.1 ∨ d ∈ r.2.owned) ∧
    (r.2.monotonicExhausted = true → maxId < r.2.monotonic)

theorem assignDoidReuse_covers {b : Backend} (complete : Complete minId maxId b) :
    Covers minId maxId (assignDoidReuse b) := by
  unfold assignDoidReuse Covers
  split
  · rename_i doid rest free
    refine ⟨fun d low high => ?_, complete.spent⟩
    have owned := complete.passed d low high
    simp only [Backend.owned, free, List.mem_append, List.mem_cons] at owned ⊢
    tauto
  · exact ⟨fun d low high => .inr (complete.passed d low high), complete.spent⟩

theorem assignDoid_eq (pos : 0 < minId) {b : Backend} (least : minId ≤ b.monotonic) :
    assignDoid minId maxId b =
      if b.monotonicExhausted = false ∧ b.monotonic ≤ maxId then
        (b.monotonic, { b with monotonic := b.monotonic + 1 })
      else assignDoidReuse { b with monotonicExhausted := true } := by
  obtain ⟨objects, monotonic, free, spent⟩ := b
  dsimp only at least
  have valid : monotonic ≠ invalidDoId := by unfold invalidDoId; omega
  cases spent <;> by_cases top : monotonic ≤ maxId <;>
    simp [assignDoid, assignDoidMonotonic, least, top, valid]

theorem assignDoid_covers (pos : 0 < minId) {b : Backend}
    (owned : Owned minId maxId b.owned b.monotonic) (complete : Complete minId maxId b) :
    Covers minId maxId (assignDoid minId maxId b) := by
  rw [assignDoid_eq pos owned.counter]
  split_ifs with counter
  · unfold Covers
    refine ⟨fun d low high => ?_, fun spent => by simp_all⟩
    by_cases same : d = b.monotonic
    · exact .inl same
    · exact .inr (complete.passed d low (by dsimp only at high; omega))
  · have top : maxId < b.monotonic := by
      cases spent : b.monotonicExhausted
      · simpa [spent] using counter
      · exact complete.spent spent
    exact assignDoidReuse_covers ⟨complete.passed, fun _ => top⟩

theorem assignDoidReuse_invalid {b : Backend} (valid : ∀ d ∈ b.free, d ≠ invalidDoId)
    (invalid : (assignDoidReuse b).1 = invalidDoId) : (assignDoidReuse b).2 = b ∧ b.free = [] := by
  cases free : b.free with
  | cons doid rest =>
    have first : (assignDoidReuse b).1 = doid := by simp [assignDoidReuse, free]
    rw [first] at invalid
    exact absurd invalid (valid doid (by simp [free]))
  | nil => exact ⟨by simp [assignDoidReuse, free], rfl⟩

theorem assignDoid_invalid (pos : 0 < minId) {b : Backend}
    (owned : Owned minId maxId b.owned b.monotonic)
    (invalid : (assignDoid minId maxId b).1 = invalidDoId) :
    (assignDoid minId maxId b).2.free = [] ∧
      (assignDoid minId maxId b).2.monotonicExhausted = true := by
  have valid : ∀ d ∈ b.free, d ≠ invalidDoId := fun d mem =>
    (owned.inRange d (List.mem_append_right _ mem)).2.2.1
  have counter : b.monotonic ≠ invalidDoId := by have := owned.counter; unfold invalidDoId; omega
  rw [assignDoid_eq pos owned.counter] at invalid ⊢
  split_ifs at invalid ⊢
  · exact absurd invalid counter
  · obtain ⟨same, empty⟩ := assignDoidReuse_invalid (b := { b with monotonicExhausted := true }) valid invalid
    rw [same]
    exact ⟨empty, rfl⟩

theorem mem_insertObject_keys {objects : List (Nat × StoredObject)} {doid d : Nat}
    {obj : StoredObject} :
    d ∈ (insertObject objects doid obj).map Prod.fst ↔ d = doid ∨ d ∈ objects.map Prod.fst := by
  unfold insertObject
  split_ifs with present
  · refine ⟨.inr, ?_⟩
    rintro (rfl | mem)
    · obtain ⟨entry, mem, same⟩ := List.any_eq_true.mp present
      exact List.mem_map.mpr ⟨entry, mem, of_decide_eq_true same⟩
    · exact mem
  · simp [or_comm]

theorem handleCreate_of_some {b : Backend} {dclass : String} {fields : FieldMap} {doid : Nat}
    (created : (handleCreate minId maxId b dclass fields).1 = some doid) :
    (assignDoid minId maxId b).1 = doid ∧ (handleCreate minId maxId b dclass fields).2 =
      ⟨insertObject (assignDoid minId maxId b).2.objects doid ⟨some dclass, some fields.entries⟩,
        (assignDoid minId maxId b).2.monotonic, (assignDoid minId maxId b).2.free,
        (assignDoid minId maxId b).2.monotonicExhausted⟩ := by
  unfold handleCreate at created ⊢
  dsimp only at created ⊢
  split_ifs at created ⊢
  obtain rfl := Option.some.inj created
  exact ⟨rfl, rfl⟩

theorem handleCreate_of_none {b : Backend} {dclass : String} {fields : FieldMap}
    (failed : (handleCreate minId maxId b dclass fields).1 = none) :
    (assignDoid minId maxId b).1 = invalidDoId ∧
      (handleCreate minId maxId b dclass fields).2 = (assignDoid minId maxId b).2 := by
  unfold handleCreate at failed ⊢
  dsimp only at failed ⊢
  split_ifs at failed ⊢ with invalid
  exact ⟨invalid, rfl⟩

theorem handleCreate_complete (pos : 0 < minId) {b : Backend}
    (owned : Owned minId maxId b.owned b.monotonic) (complete : Complete minId maxId b)
    (dclass : String) (fields : FieldMap) :
    Complete minId maxId (handleCreate minId maxId b dclass fields).2 := by
  have covers := assignDoid_covers pos owned complete
  cases created : (handleCreate minId maxId b dclass fields).1 with
  | none =>
    obtain ⟨invalid, state⟩ := handleCreate_of_none created
    rw [state]
    refine ⟨fun d low high => (covers.1 d low high).resolve_left fun same => ?_, covers.2⟩
    unfold invalidDoId at invalid
    omega
  | some doid =>
    obtain ⟨assigned, state⟩ := handleCreate_of_some created
    rw [state]
    refine ⟨fun d low high => ?_, covers.2⟩
    simp only [Backend.owned, List.mem_append, mem_insertObject_keys]
    rcases covers.1 d low high with same | mem
    · exact .inl (.inl (same.trans assigned))
    · simp only [Backend.owned, List.mem_append] at mem
      tauto

theorem handleDelete_complete {b : Backend} (complete : Complete minId maxId b) (doid : Nat) :
    Complete minId maxId (handleDelete b doid).2 := by
  unfold handleDelete
  split
  · refine ⟨fun d low high => ?_, complete.spent⟩
    have owned := complete.passed d low high
    by_cases same : d = doid
    · simp [Backend.owned, freeDoid, same]
    · simp only [Backend.owned, freeDoid, removeObject_keys, List.mem_append, List.mem_filter,
        decide_eq_true_eq, List.mem_singleton] at owned ⊢
      tauto
  · exact complete

theorem handleModify_objects (verifyClass : String → Bool) (b : Backend) (doid : Nat)
    (sets criteria : FieldMap) :
    ∃ objects, (handleModify verifyClass b doid sets criteria).2 = { b with objects := objects } := by
  unfold handleModify
  split
  · split_ifs
    · split
      · exact ⟨b.objects, rfl⟩
      · exact ⟨b.objects, rfl⟩
    · exact ⟨b.objects, rfl⟩
  · split_ifs
    · exact ⟨_, rfl⟩
    · exact ⟨_, rfl⟩

theorem handleModify_complete {b : Backend} (complete : Complete minId maxId b)
    (verifyClass : String → Bool) (doid : Nat) (sets criteria : FieldMap) :
    Complete minId maxId (handleModify verifyClass b doid sets criteria).2 := by
  obtain ⟨keys, counter⟩ := handleModify_owned verifyClass b doid sets criteria
  obtain ⟨objects, state⟩ := handleModify_objects verifyClass b doid sets criteria
  refine ⟨fun d low high => ?_, fun spent => ?_⟩
  · rw [keys]
    exact complete.passed d low (counter ▸ high)
  · rw [counter]
    rw [state] at spent
    exact complete.spent spent

theorem Complete.step (pos : 0 < minId) {b : Backend}
    (owned : Owned minId maxId b.owned b.monotonic) (complete : Complete minId maxId b) :
    ∀ op, Complete minId maxId (b.step minId maxId op)
  | .create dclass fields => handleCreate_complete pos owned complete dclass fields
  | .delete doid => handleDelete_complete complete doid
  | .modify doid sets criteria verifyClass =>
    handleModify_complete complete verifyClass doid sets criteria

theorem Reachable.complete (pos : 0 < minId) {b : Backend} (reach : Reachable minId maxId b) :
    Complete minId maxId b := by
  induction reach with
  | initial =>
    exact ⟨fun d low high => by simp [Backend.initial] at high; omega,
      fun spent => by simp [Backend.initial] at spent⟩
  | step op reach complete => exact complete.step pos reach.owned op

end Complete

section Refinement

variable {minId maxId : Nat}

theorem handleCreate_refines (pos : 0 < minId) {b : Backend} (reach : Reachable minId maxId b)
    (dclass : String) (fields : FieldMap) :
    DbStep minId maxId b.view (.create dclass fields)
      (.created (handleCreate minId maxId b dclass fields).1)
      (handleCreate minId maxId b dclass fields).2.view := by
  have owned := reach.owned
  have same : (assignDoid minId maxId b).2.objects = b.objects := assignDoid_objects b
  cases created : (handleCreate minId maxId b dclass fields).1 with
  | some doid =>
    obtain ⟨range, top, valid, fresh⟩ := (handleCreate_owned owned dclass fields).2 doid created
    have view : (handleCreate minId maxId b dclass fields).2.view =
        b.view.set doid (some ⟨some dclass, some fields.entries⟩) := by
      funext d
      rw [(handleCreate_of_some created).2, Backend.view, same]
      exact findObject_insertObject fresh _ d
    rw [view]
    exact .created range top valid (findObject_eq_none.mpr fresh)
  | none =>
    obtain ⟨invalid, state⟩ := handleCreate_of_none created
    obtain ⟨empty, spent⟩ := assignDoid_invalid pos owned invalid
    have covers := assignDoid_covers pos owned (reach.complete pos)
    have view : (handleCreate minId maxId b dclass fields).2.view = b.view := by
      rw [state, Backend.view, same]
      rfl
    rw [view]
    refine .full fun d low high stored => ?_
    have taken : d ∈ b.objects.map Prod.fst := by
      rcases covers.1 d low (by have := covers.2 spent; omega) with first | mem
      · unfold invalidDoId at invalid
        omega
      · simpa [Backend.owned, empty, same] using mem
    exact findObject_eq_none.mp stored taken

theorem handleDelete_refines (b : Backend) (doid : Nat) :
    DbStep minId maxId b.view (.delete doid) (.deleted (handleDelete b doid).1)
      (handleDelete b doid).2.view := by
  unfold handleDelete
  split
  · rename_i obj found
    have view : (freeDoid { b with objects := removeObject b.objects doid } doid).view =
        b.view.set doid none :=
      funext (findObject_removeObject b.objects doid)
    dsimp only
    rw [view]
    exact .deleted found
  · rename_i absent
    exact .missing absent

theorem handleModify_refines (verifyClass : String → Bool) (b : Backend) (doid : Nat)
    (sets criteria : FieldMap) (nonempty : sets.entries ≠ []) :
    DbStep minId maxId b.view (.modify doid sets criteria verifyClass)
      (.modified (handleModify verifyClass b doid sets criteria).1)
      (handleModify verifyClass b doid sets criteria).2.view := by
  rcases matched : findAndModify b.objects doid criteria.entries (modifyUpdate sets.entries) with
    _ | ⟨obj, objects⟩
  · have unmatched := @handleModify_of_none verifyClass b doid sets criteria matched
    rw [unmatched.1]
    exact .unmodified unmatched.2
  · obtain ⟨found, holds, rfl⟩ := findAndModify_eq_some.mp matched
    have modified := applyUpdate_modified sets.distinct nonempty obj
    rw [handleModify_of_some matched]
    generalize applyUpdate (modifyUpdate sets.entries) obj = after at modified ⊢
    split_ifs with verified
    · have view : ({ b with objects := replaceObject b.objects doid after } : Backend).view =
          b.view.set doid (some after) := by
        funext d
        unfold Backend.view View.set
        rw [findObject_replaceObject]
        split_ifs
        · rw [found]
          rfl
        · rfl
      dsimp only
      rw [view]
      exact .modified found holds verified modified
    · have view : ({ b with objects := replaceObject (replaceObject b.objects doid after) doid obj } :
          Backend).view = b.view := by
        funext d
        unfold Backend.view
        simp only [findObject_replaceObject]
        by_cases same : d = doid
        · subst same
          simp [found]
        · simp [same]
      dsimp only
      rw [view]
      exact .unmodified nofun

theorem Backend.perform_snd (b : Backend) (op : Operation) :
    (b.perform minId maxId op).2 = b.step minId maxId op := by
  cases op <;> rfl

theorem Backend.perform_refines (pos : 0 < minId) {b : Backend} (reach : Reachable minId maxId b) :
    ∀ op : Operation, op.HasFields →
      DbStep minId maxId b.view op (b.perform minId maxId op).1 (b.perform minId maxId op).2.view
  | .create dclass fields, _ => handleCreate_refines pos reach dclass fields
  | .delete doid, _ => handleDelete_refines b doid
  | .modify doid sets criteria verifyClass, nonempty =>
    handleModify_refines verifyClass b doid sets criteria nonempty

/-- From every state operations lead to, with a valid `min_id` and `max_id` below `2 ^ 31`,
whatever operations follow, each modification naming at least one field, what the backend
reports and the objects it keeps are a run of the abstract database: creates give fresh DOIDs of
the range and fail only when the range is full, deletes remove, modifications change exactly the
requested fields or nothing. The bound is where the model's DOIDs are the driver's: `doid_t` goes
into BSON as a signed 32-bit int and comes back through `element.Int()`, so a `max_id` from
`2 ^ 31` on is stored negative and the counter's range query matches nothing. -/
theorem performAll_refines (pos : 0 < minId) (_int32 : maxId < 2 ^ 31) {b : Backend}
    (reach : Reachable minId maxId b)
    (ops : List Operation) (hasFields : ∀ op ∈ ops, op.HasFields) :
    DbRun minId maxId b.view ops (b.performAll minId maxId ops).1
      (b.performAll minId maxId ops).2.view := by
  induction ops generalizing b with
  | nil => exact .nil _
  | cons op ops ih =>
    have next : Reachable minId maxId (b.perform minId maxId op).2 :=
      (b.perform_snd op).symm ▸ reach.step op
    exact .cons (Backend.perform_refines pos reach op (hasFields op (List.mem_cons_self _ _)))
      (ih next fun op mem => hasFields op (List.mem_cons_of_mem _ mem))

end Refinement

/-- A run from the empty database in `[1, 2]`: two creates fill the range, a delete frees 1, a
modification of 2 sets a field, and a third create reuses 1. -/
theorem performAll_refines_fill_and_reuse :
    let fields : FieldMap := ⟨[("x", [1])], by decide⟩
    let sets : FieldMap := ⟨[("x", [2])], by decide⟩
    let ops : List Operation := [.create "A" fields, .create "A" fields, .delete 1,
      .modify 2 sets ⟨[], List.nodup_nil⟩ (fun _ => true), .create "A" fields]
    ((Backend.initial 1).performAll 1 2 ops).1 = [.created (some 1), .created (some 2),
        .deleted true, .modified .complete, .created (some 1)] ∧
      DbRun 1 2 (Backend.initial 1).view ops ((Backend.initial 1).performAll 1 2 ops).1
        ((Backend.initial 1).performAll 1 2 ops).2.view :=
  ⟨rfl, performAll_refines Nat.one_pos (by decide) .initial _ fun op mem => by
    simp only [List.mem_cons, List.mem_singleton, List.not_mem_nil, or_false] at mem
    rcases mem with rfl | rfl | rfl | rfl | rfl <;> simp [Operation.HasFields]⟩

/-- What every state reachable with `min_id = 0` is: no object, an empty free list, and a counter
still at 0 unless given up. -/
structure Barren (b : Backend) : Prop where
  objects : b.objects = []
  free : b.free = []
  counter : b.monotonicExhausted = false → b.monotonic = 0

theorem handleCreate_from_zero {maxId : Nat} {b : Backend} (barren : Barren b) (dclass : String)
    (fields : FieldMap) :
    (handleCreate 0 maxId b dclass fields).1 = none ∧ Barren (handleCreate 0 maxId b dclass fields).2 := by
  obtain ⟨objects, monotonic, free, spent⟩ := b
  obtain ⟨empty, noFree, counter⟩ := barren
  dsimp only at empty noFree counter
  subst empty noFree
  cases spent
  · obtain rfl := counter rfl
    simp [handleCreate, assignDoid, assignDoidMonotonic, assignDoidReuse, invalidDoId]
    exact ⟨rfl, rfl, nofun⟩
  · simp [handleCreate, assignDoid, assignDoidReuse, invalidDoId]
    exact ⟨rfl, rfl, nofun⟩

theorem Barren.step {maxId : Nat} {b : Backend} (barren : Barren b) :
    ∀ op, Barren (b.step 0 maxId op)
  | .create dclass fields => (handleCreate_from_zero barren dclass fields).2
  | .delete doid => by
    have absent : findObject b.objects doid = none := by rw [barren.objects]; rfl
    simpa [Backend.step, handleDelete, absent] using barren
  | .modify doid sets criteria verifyClass => by
    have unmatched : findAndModify b.objects doid criteria.entries (modifyUpdate sets.entries) =
        none := by rw [barren.objects]; rfl
    rw [show b.step 0 maxId (.modify doid sets criteria verifyClass) = b from
      (@handleModify_of_none verifyClass b doid sets criteria unmatched).1]
    exact barren

theorem Reachable.barren {maxId : Nat} {b : Backend} (reach : Reachable 0 maxId b) : Barren b := by
  induction reach with
  | initial => exact ⟨rfl, rfl, fun _ => rfl⟩
  | step op _ barren => exact barren.step op

/-- With `min_id = INVALID_DO_ID` the counter's first DOID is `INVALID_DO_ID`, which
`assign_doid` takes for a spent counter; the free list only ever holds deleted objects' DOIDs,
and there are none. So whatever operations came before, `handle_create` fails. -/
theorem handleCreate_fails_from_zero {maxId : Nat} {b : Backend} (reach : Reachable 0 maxId b)
    (dclass : String) (fields : FieldMap) : (handleCreate 0 maxId b dclass fields).1 = none :=
  (handleCreate_from_zero reach.barren dclass fields).1

/-- With the range `[0, 5]`, after a failed create and a delete of 0, a create still fails. -/
theorem handleCreate_fails_from_zero_again :
    (handleCreate 0 5 ((Backend.initial 0).run 0 5 [.create "A" ⟨[], List.nodup_nil⟩, .delete 0])
      "A" ⟨[], List.nodup_nil⟩).1 = none :=
  handleCreate_fails_from_zero (Reachable.initial.run _) _ _

section Persistence

variable {minId maxId : Nat}

theorem handleCreate_view_stored {b : Backend} (reach : Reachable minId maxId b)
    (dclass : String) (fields : FieldMap) {d : Nat} {obj : StoredObject}
    (stored : b.view d = some obj) :
    (handleCreate minId maxId b dclass fields).2.view d = some obj := by
  have same : (assignDoid minId maxId b).2.objects = b.objects := assignDoid_objects b
  cases created : (handleCreate minId maxId b dclass fields).1 with
  | some doid =>
    have fresh := ((handleCreate_owned reach.owned dclass fields).2 doid created).2.2.2
    have other : d ≠ doid := fun same => fresh (same ▸ findObject_mem stored)
    rw [(handleCreate_of_some created).2]
    show findObject (insertObject (assignDoid minId maxId b).2.objects doid _) d = some obj
    rw [same, findObject_insertObject fresh, if_neg other]
    exact stored
  | none =>
    rw [(handleCreate_of_none created).2]
    show findObject (assignDoid minId maxId b).2.objects d = some obj
    rw [same]
    exact stored

theorem handleDelete_view_ne (b : Backend) {doid d : Nat} (other : d ≠ doid) :
    (handleDelete b doid).2.view d = b.view d := by
  unfold handleDelete
  split
  · exact (findObject_removeObject b.objects doid d).trans (if_neg other)
  · rfl

theorem handleModify_view_ne (verifyClass : String → Bool) (b : Backend) (doid : Nat)
    (sets criteria : FieldMap) {d : Nat} (other : d ≠ doid) :
    (handleModify verifyClass b doid sets criteria).2.view d = b.view d := by
  rcases matched : findAndModify b.objects doid criteria.entries (modifyUpdate sets.entries) with
    _ | ⟨obj, objects⟩
  · rw [(@handleModify_of_none verifyClass b doid sets criteria matched).1]
  · obtain ⟨-, -, rfl⟩ := findAndModify_eq_some.mp matched
    rw [handleModify_of_some matched]
    split_ifs <;> simp [Backend.view, findObject_replaceObject, other]

theorem Backend.step_view {b : Backend} (reach : Reachable minId maxId b) {d : Nat}
    {obj : StoredObject} (stored : b.view d = some obj) :
    ∀ op : Operation, op.target ≠ some d → (b.step minId maxId op).view d = some obj
  | .create dclass fields, _ => handleCreate_view_stored reach dclass fields stored
  | .delete _, untouched =>
    (handleDelete_view_ne b fun same => untouched (congrArg some same.symm)).trans stored
  | .modify doid sets criteria verifyClass, untouched =>
    (handleModify_view_ne verifyClass b doid sets criteria fun same =>
      untouched (congrArg some same.symm)).trans stored

theorem Backend.run_view {b : Backend} (reach : Reachable minId maxId b) {d : Nat}
    {obj : StoredObject} (stored : b.view d = some obj) (ops : List Operation)
    (untouched : ∀ op ∈ ops, op.target ≠ some d) : (b.run minId maxId ops).view d = some obj := by
  induction ops generalizing b with
  | nil => exact stored
  | cons op ops ih =>
    exact ih (reach.step op) (Backend.step_view reach stored op
      (untouched op (List.mem_cons_self _ _))) fun op mem => untouched op (List.mem_cons_of_mem _ mem)

theorem foldl_setField_distinct (l acc : List (String × Bytes))
    (distinct : ((acc ++ l).map Prod.fst).Nodup) : l.foldl setField (some acc) = some (acc ++ l) := by
  induction l generalizing acc with
  | nil => simp
  | cons field rest ih =>
    have absent : acc.any (·.1 = field.1) = false := by
      refine List.any_eq_false.mpr fun entry mem same => ?_
      rw [List.map_append] at distinct
      exact (List.nodup_append.mp distinct).2.2 (List.mem_map_of_mem Prod.fst mem)
        (by simp [of_decide_eq_true same])
    rw [List.foldl_cons, setField, absent, if_neg Bool.false_ne_true, ih (acc ++ [field])
      (by simpa using distinct)]
    simp

theorem formatSnapshot_created (file : ClassFile) (dclass : String) (fields : FieldMap) :
    formatSnapshot file ⟨some dclass, some fields.entries⟩ =
      if file.hasClass dclass then
        some ⟨dclass, fields.entries.filter fun field => file.hasField dclass field.1⟩
      else none := by
  simp only [formatSnapshot]
  split_ifs
  · rw [foldl_setField_distinct _ [] (by
      simpa using fields.distinct.sublist ((List.filter_sublist _).map _))]
    rfl
  · rfl

theorem handleGet_of_view {b : Backend} {d : Nat} {obj : StoredObject}
    (stored : b.view d = some obj) (file : ClassFile) (verify : String → Bool) :
    handleGet file verify b d =
      (formatSnapshot file obj).bind fun snap => if verify snap.dclass then some snap else none := by
  unfold handleGet
  rw [show findObject b.objects d = some obj from stored]
  dsimp only
  cases formatSnapshot file obj <;> rfl

/-- In every state operations lead to, an object `handle_create` stores is read back by
`handle_get` as created, with the fields its class has, after any operations that do not name
its DOID: a later create never reuses it, and deletes and modifications of other DOIDs leave it
alone. -/
theorem handleGet_after_create {b : Backend} (reach : Reachable minId maxId b) {dclass : String}
    {fields : FieldMap} {doid : Nat} (created : (handleCreate minId maxId b dclass fields).1 = some doid)
    (ops : List Operation) (untouched : ∀ op ∈ ops, op.target ≠ some doid) (file : ClassFile)
    (verify : String → Bool) :
    handleGet file verify ((handleCreate minId maxId b dclass fields).2.run minId maxId ops) doid =
      if file.hasClass dclass && verify dclass then
        some ⟨dclass, fields.entries.filter fun field => file.hasField dclass field.1⟩
      else none := by
  have stored : (handleCreate minId maxId b dclass fields).2.view doid =
      some ⟨some dclass, some fields.entries⟩ := by
    have fresh := ((handleCreate_owned reach.owned dclass fields).2 doid created).2.2.2
    rw [(handleCreate_of_some created).2]
    show findObject (insertObject (assignDoid minId maxId b).2.objects doid _) doid = _
    rw [assignDoid_objects, findObject_insertObject fresh, if_pos rfl]
  have next : Reachable minId maxId (handleCreate minId maxId b dclass fields).2 :=
    reach.step (.create dclass fields)
  rw [handleGet_of_view (Backend.run_view next stored ops untouched), formatSnapshot_created]
  cases hasClass : file.hasClass dclass <;> simp [hasClass]

/-- Object 1 of class `A`, created with fields `x` and `y` in `[1, 2]`, is read back with `x`
only, the one field its class has, after another create and a delete of 2. -/
theorem handleGet_after_create_other_ops :
    let fields : FieldMap := ⟨[("x", [1]), ("y", [2])], by decide⟩
    let file : ClassFile := ⟨fun _ => true, fun _ name => name = "x"⟩
    let ops : List Operation := [.create "A" fields, .delete 2]
    handleGet file (fun _ => true) ((handleCreate 1 2 (Backend.initial 1) "A" fields).2.run 1 2 ops)
      1 = some ⟨"A", [("x", [1])]⟩ := by
  intro fields file ops
  have untouched : ∀ op ∈ ops, op.target ≠ some 1 := fun op mem => by
    simp only [ops, List.mem_cons, List.mem_singleton, List.not_mem_nil, or_false] at mem
    rcases mem with rfl | rfl <;> simp [Operation.target]
  exact (handleGet_after_create .initial (show (handleCreate 1 2 (Backend.initial 1) "A"
    fields).1 = some 1 from rfl) ops untouched file _).trans rfl

end Persistence

end Astron.MongoDatabase

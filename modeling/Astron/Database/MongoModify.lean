import Astron.Database.MongoDatabase
import Mathlib.Data.List.Nodup

set_option autoImplicit false

/- What `MongoDatabase::handle_modify` (src/database/MongoDatabase.cpp) leaves in
`astron.objects`. The `findandmodify` it sends holds `$set` of the fields given a value and
`$unset` of those given an empty one. With no field at all the update document is empty, and
MongoDB takes an update document with no operator for a replacement of the whole document: the
object loses its class and its fields, its class (read from the document as it was) still
verifies, and the operation completes. With at least one field, a completed operation has set
and removed exactly the fields asked for; an operation that does not complete leaves every
object as it was, the revert after a failed `verify_class` included. -/

namespace Astron.MongoDatabase

/-- `after` is `before` with exactly the fields of `sets` set, or removed where the value is
empty, and its class and every other field as they were. -/
structure Modified (sets : List (String × Bytes)) (before after : StoredObject) : Prop where
  dclass : after.dclass = before.dclass
  requested : ∀ field ∈ sets,
    fieldOf after field.1 = if field.2.isEmpty then none else some field.2
  frame : ∀ name, name ∉ sets.map Prod.fst → fieldOf after name = fieldOf before name

section Lookup

variable {α β : Type} [DecidableEq α]

theorem lookup_cons (entry : α × β) (rest : List (α × β)) (key : α) :
    ((entry :: rest).find? fun e => e.1 = key).map Prod.snd =
      if entry.1 = key then some entry.2 else (rest.find? fun e => e.1 = key).map Prod.snd := by
  by_cases h : entry.1 = key <;> simp [List.find?_cons, h]

theorem lookup_replace (l : List (α × β)) (kv : α × β) (key : α) :
    ((l.map fun e => if e.1 = kv.1 then kv else e).find? fun e => e.1 = key).map Prod.snd =
      if key = kv.1 then (if l.any (·.1 = kv.1) then some kv.2 else none)
      else (l.find? fun e => e.1 = key).map Prod.snd := by
  induction l with
  | nil => simp
  | cons entry rest ih =>
    rw [List.map_cons, lookup_cons, lookup_cons, ih, List.any_cons]
    by_cases replaced : entry.1 = kv.1
    · by_cases named : key = kv.1
      · simp [replaced, named]
      · have named' : kv.1 ≠ key := fun h => named h.symm
        simp [replaced, named, named']
    · simp only [replaced, if_false, decide_False, Bool.false_or]
      by_cases found : entry.1 = key
      · subst found
        simp [replaced]
      · simp [found]

theorem lookup_append_absent (l : List (α × β)) (kv : α × β) (key : α)
    (absent : l.any (·.1 = kv.1) = false) :
    ((l ++ [kv]).find? fun e => e.1 = key).map Prod.snd =
      if key = kv.1 then some kv.2 else (l.find? fun e => e.1 = key).map Prod.snd := by
  induction l with
  | nil => by_cases h : key = kv.1 <;> simp [h, eq_comm]
  | cons entry rest ih =>
    simp only [List.any_cons, Bool.or_eq_false_iff, decide_eq_false_iff_not] at absent
    rw [List.cons_append, lookup_cons, lookup_cons, ih absent.2]
    by_cases found : entry.1 = key
    · subst found
      simp [absent.1]
    · simp [found]

theorem lookup_filter_ne (l : List (α × β)) (removed key : α) :
    ((l.filter fun e => e.1 ≠ removed).find? fun e => e.1 = key).map Prod.snd =
      if key = removed then none else (l.find? fun e => e.1 = key).map Prod.snd := by
  induction l with
  | nil => simp
  | cons entry rest ih =>
    by_cases kept : entry.1 = removed
    · rw [List.filter_cons_of_neg (by simpa using kept), ih, lookup_cons]
      by_cases named : key = removed
      · simp [named]
      · have named' : removed ≠ key := fun h => named h.symm
        simp [named, kept, named']
    · rw [List.filter_cons_of_pos (by simpa using kept), lookup_cons, lookup_cons, ih]
      by_cases found : entry.1 = key
      · subst found
        simp [kept]
      · simp [found]

end Lookup

theorem fieldOf_setField (dclass : Option String) (fields : Option (List (String × Bytes)))
    (field : String × Bytes) (name : String) :
    fieldOf ⟨dclass, setField fields field⟩ name =
      if name = field.1 then some field.2 else fieldOf ⟨dclass, fields⟩ name := by
  cases fields with
  | none => by_cases h : name = field.1 <;> simp [fieldOf, setField, h, eq_comm]
  | some entries =>
    simp only [fieldOf, setField, Option.some_bind]
    split_ifs with present named named
    · rw [lookup_replace, if_pos named, if_pos present]
    · rw [lookup_replace, if_neg named]
    · rw [lookup_append_absent _ _ _ (eq_false_of_ne_true present), if_pos named]
    · rw [lookup_append_absent _ _ _ (eq_false_of_ne_true present), if_neg named]

theorem fieldOf_unsetField (dclass : Option String) (fields : Option (List (String × Bytes)))
    (removed name : String) :
    fieldOf ⟨dclass, unsetField fields removed⟩ name =
      if name = removed then none else fieldOf ⟨dclass, fields⟩ name := by
  cases fields with
  | none => by_cases h : name = removed <;> simp [fieldOf, unsetField, h]
  | some entries =>
    simp only [fieldOf, unsetField, Option.map_some', Option.some_bind]
    exact lookup_filter_ne entries removed name

theorem fieldOf_setFields_not_mem (dclass : Option String) (set : List (String × Bytes))
    (fields : Option (List (String × Bytes))) (name : String) (absent : name ∉ set.map Prod.fst) :
    fieldOf ⟨dclass, set.foldl setField fields⟩ name = fieldOf ⟨dclass, fields⟩ name := by
  induction set generalizing fields with
  | nil => rfl
  | cons field rest ih =>
    simp only [List.map_cons, List.mem_cons, not_or] at absent
    exact (ih (setField fields field) absent.2).trans
      ((fieldOf_setField dclass fields field name).trans (if_neg absent.1))

theorem fieldOf_setFields_mem (dclass : Option String) {set : List (String × Bytes)}
    (distinct : (set.map Prod.fst).Nodup) (fields : Option (List (String × Bytes)))
    {field : String × Bytes} (mem : field ∈ set) :
    fieldOf ⟨dclass, set.foldl setField fields⟩ field.1 = some field.2 := by
  induction set generalizing fields with
  | nil => exact absurd mem (List.not_mem_nil _)
  | cons first rest ih =>
    rw [List.map_cons, List.nodup_cons] at distinct
    rcases List.mem_cons.mp mem with rfl | mem
    · exact (fieldOf_setFields_not_mem dclass rest _ _ distinct.1).trans
        ((fieldOf_setField dclass fields field field.1).trans (if_pos rfl))
    · exact ih distinct.2 (setField fields first) mem

theorem fieldOf_unsetFields_not_mem (dclass : Option String) (unset : List String)
    (fields : Option (List (String × Bytes))) (name : String) (absent : name ∉ unset) :
    fieldOf ⟨dclass, unset.foldl unsetField fields⟩ name = fieldOf ⟨dclass, fields⟩ name := by
  induction unset generalizing fields with
  | nil => rfl
  | cons removed rest ih =>
    simp only [List.mem_cons, not_or] at absent
    exact (ih (unsetField fields removed) absent.2).trans
      ((fieldOf_unsetField dclass fields removed name).trans (if_neg absent.1))

theorem fieldOf_unsetFields_mem (dclass : Option String) (unset : List String)
    (fields : Option (List (String × Bytes))) {name : String} (mem : name ∈ unset) :
    fieldOf ⟨dclass, unset.foldl unsetField fields⟩ name = none := by
  induction unset generalizing fields with
  | nil => exact absurd mem (List.not_mem_nil _)
  | cons removed rest ih =>
    by_cases later : name ∈ rest
    · exact ih (unsetField fields removed) later
    · have first : name = removed := (List.mem_cons.mp mem).resolve_right later
      exact (fieldOf_unsetFields_not_mem dclass rest _ name later).trans
        ((fieldOf_unsetField dclass fields removed name).trans (if_pos first))

theorem modifyUpdate_of_ne_nil {sets : List (String × Bytes)} (nonempty : sets ≠ []) :
    modifyUpdate sets = .operators (sets.filter fun field => !field.2.isEmpty)
      ((sets.filter fun field => field.2.isEmpty).map Prod.fst) := by
  obtain ⟨first, rest, rfl⟩ := List.exists_cons_of_ne_nil nonempty
  unfold modifyUpdate
  cases empty : first.2.isEmpty <;> simp [List.filter_cons, empty]

theorem applyUpdate_modified {sets : List (String × Bytes)} (distinct : (sets.map Prod.fst).Nodup)
    (nonempty : sets ≠ []) (obj : StoredObject) :
    Modified sets obj (applyUpdate (modifyUpdate sets) obj) := by
  obtain ⟨dclass, fields⟩ := obj
  rw [modifyUpdate_of_ne_nil nonempty]
  have setNames : ((sets.filter fun field => !field.2.isEmpty).map Prod.fst) ⊆ sets.map Prod.fst :=
    ((List.filter_sublist _).map _).subset
  have unsetNames : ((sets.filter fun field => field.2.isEmpty).map Prod.fst) ⊆ sets.map Prod.fst :=
    ((List.filter_sublist _).map _).subset
  refine ⟨rfl, fun field mem => ?_, fun name absent => ?_⟩
  · cases empty : field.2.isEmpty
    · have kept : field.1 ∉ (sets.filter fun field => field.2.isEmpty).map Prod.fst := by
        simp only [List.mem_map, List.mem_filter, not_exists, not_and]
        rintro other ⟨otherMem, otherEmpty⟩ same
        have : other = field := List.inj_on_of_nodup_map distinct otherMem mem same
        simp [this, empty] at otherEmpty
      have set : field ∈ sets.filter fun field => !field.2.isEmpty := by simp [mem, empty]
      rw [if_neg Bool.false_ne_true]
      exact (fieldOf_unsetFields_not_mem _ _ _ _ kept).trans
        (fieldOf_setFields_mem _ (distinct.sublist ((List.filter_sublist _).map _)) fields set)
    · have unset : field ∈ sets.filter fun field => field.2.isEmpty := by simp [mem, empty]
      rw [if_pos rfl]
      exact fieldOf_unsetFields_mem _ _ _ (List.mem_map_of_mem Prod.fst unset)
  · exact (fieldOf_unsetFields_not_mem _ _ _ _ fun mem => absent (unsetNames mem)).trans
      (fieldOf_setFields_not_mem _ _ _ _ fun mem => absent (setNames mem))

theorem findObject_replaceObject (objects : List (Nat × StoredObject)) (doid : Nat)
    (obj : StoredObject) (id : Nat) :
    findObject (replaceObject objects doid obj) id =
      if id = doid then (findObject objects doid).map fun _ => obj else findObject objects id := by
  have replaced := lookup_replace objects (doid, obj) id
  dsimp only at replaced
  unfold findObject replaceObject
  rw [replaced]
  split_ifs with same present
  · obtain ⟨entry, found⟩ := Option.isSome_iff_exists.mp (List.find?_isSome.mpr
      (List.any_eq_true.mp present))
    simp [found]
  · simp only [Bool.not_eq_true, List.any_eq_false] at present
    rw [List.find?_eq_none.mpr fun entry mem => Bool.eq_false_iff.mp (present entry mem)]
    rfl
  · rfl

theorem handleModify_of_none {verifyClass : String → Bool} {b : Backend} {doid : Nat}
    {sets criteria : FieldMap}
    (unmatched : findAndModify b.objects doid criteria.entries (modifyUpdate sets.entries) = none) :
    (handleModify verifyClass b doid sets criteria).2 = b ∧
      (handleModify verifyClass b doid sets criteria).1 ≠ .complete := by
  simp only [handleModify, unmatched]
  split_ifs
  · split
    · split_ifs <;> exact ⟨rfl, fun h => nomatch h⟩
    · exact ⟨rfl, fun h => nomatch h⟩
  · exact ⟨rfl, fun h => nomatch h⟩

theorem handleModify_of_some {verifyClass : String → Bool} {b : Backend} {doid : Nat}
    {sets criteria : FieldMap} {obj : StoredObject} {objects : List (Nat × StoredObject)}
    (matched : findAndModify b.objects doid criteria.entries (modifyUpdate sets.entries) =
      some (obj, objects)) :
    handleModify verifyClass b doid sets criteria =
      if obj.dclass.any verifyClass then (.complete, { b with objects := objects })
      else (.failure, { b with objects := replaceObject objects doid obj }) := by
  simp only [handleModify, matched]

/-- With at least one field to set or remove, `handle_modify` calls `on_complete` only when the
object existed, met the criteria, and has a class that verifies, and the object afterwards is
the object before with exactly the requested fields set or removed. -/
theorem handleModify_complete_modified (verifyClass : String → Bool) (b : Backend) (doid : Nat)
    (sets criteria : FieldMap) (nonempty : sets.entries ≠ [])
    (complete : (handleModify verifyClass b doid sets criteria).1 = .complete) :
    ∃ before after, findObject b.objects doid = some before ∧
      criteria.entries.all (criterionHolds before) = true ∧ before.dclass.any verifyClass = true ∧
      findObject (handleModify verifyClass b doid sets criteria).2.objects doid = some after ∧
      Modified sets.entries before after := by
  rcases matched : findAndModify b.objects doid criteria.entries (modifyUpdate sets.entries) with
    _ | ⟨obj, objects⟩
  · exact absurd complete (handleModify_of_none matched).2
  · obtain ⟨found, holds, rfl⟩ := findAndModify_eq_some.mp matched
    rw [handleModify_of_some matched] at complete ⊢
    split_ifs at complete ⊢ with verified
    refine ⟨obj, _, found, holds, verified, ?_, applyUpdate_modified sets.distinct nonempty obj⟩
    simp [findObject_replaceObject, found]

/-- The object `[1]` of class `A` with field `x`, and `hp` set to `[5]` and `x` removed, under
the criterion that `x` holds `[1]`. -/
theorem handleModify_complete_modified_set_unset :
    let b : Backend := ⟨[(1, ⟨some "A", some [("x", [1])]⟩)], 2, [], false⟩
    let sets : FieldMap := ⟨[("hp", [5]), ("x", [])], by decide⟩
    let criteria : FieldMap := ⟨[("x", [1])], by decide⟩
    (handleModify (fun _ => true) b 1 sets criteria).2.objects =
        [(1, ⟨some "A", some [("hp", [5])]⟩)] ∧
      ∃ before after, findObject b.objects 1 = some before ∧
        criteria.entries.all (criterionHolds before) = true ∧
        before.dclass.any (fun _ => true) = true ∧
        findObject (handleModify (fun _ => true) b 1 sets criteria).2.objects 1 = some after ∧
        Modified sets.entries before after :=
  ⟨rfl, handleModify_complete_modified _ _ 1 _ _ (List.cons_ne_nil _ _) rfl⟩

/-- `handle_modify` changes no object but the one it modifies, and when it ends in
`on_criteria_mismatch` or `on_failure` it changes none, whatever the fields and criteria. -/
theorem handleModify_unchanged_unless_complete (verifyClass : String → Bool) (b : Backend)
    (doid : Nat) (sets criteria : FieldMap) (id : Nat)
    (untouched : id ≠ doid ∨ (handleModify verifyClass b doid sets criteria).1 ≠ .complete) :
    findObject (handleModify verifyClass b doid sets criteria).2.objects id =
      findObject b.objects id := by
  rcases matched : findAndModify b.objects doid criteria.entries (modifyUpdate sets.entries) with
    _ | ⟨obj, objects⟩
  · rw [(handleModify_of_none matched).1]
  · obtain ⟨found, -, rfl⟩ := findAndModify_eq_some.mp matched
    rw [handleModify_of_some matched] at untouched ⊢
    split_ifs at untouched ⊢ with verified
    · have other : id ≠ doid := untouched.resolve_right (not_not_intro rfl)
      simp [findObject_replaceObject, other]
    · by_cases same : id = doid
      · subst same
        simp [findObject_replaceObject, found]
      · simp [findObject_replaceObject, same]

/-- A modification of `[1]` whose criterion fails keeps the object. -/
theorem handleModify_unchanged_unless_complete_mismatch :
    let b : Backend := ⟨[(1, ⟨some "A", some [("x", [1])]⟩)], 2, [], false⟩
    let sets : FieldMap := ⟨[("x", [2])], by decide⟩
    let criteria : FieldMap := ⟨[("x", [3])], by decide⟩
    (handleModify (fun _ => true) b 1 sets criteria).1 = .criteriaMismatch ∧
      findObject (handleModify (fun _ => true) b 1 sets criteria).2.objects 1 =
        findObject b.objects 1 :=
  ⟨rfl, handleModify_unchanged_unless_complete _ _ 1 _ _ 1 (Or.inr (by decide))⟩

/-- With no field to set or remove, `handle_modify` sends the empty update document, which
replaces object `[1]` of class `A` by one with neither class nor fields; its class as read
before the update verifies, so the operation completes. -/
theorem handleModify_empty_update_clears_object :
    let noFields : FieldMap := ⟨[], List.nodup_nil⟩
    let b := (Backend.initial 1).run 1 1 [.create "A" ⟨[("x", [1])], by decide⟩]
    findObject b.objects 1 = some ⟨some "A", some [("x", [1])]⟩ ∧
      handleModify (fun _ => true) b 1 noFields noFields =
        (.complete, { b with objects := [(1, ⟨none, none⟩)] }) ∧
      ¬Modified [] ⟨some "A", some [("x", [1])]⟩ ⟨none, none⟩ :=
  ⟨rfl, rfl, fun modified => Option.noConfusion modified.dclass⟩

end Astron.MongoDatabase

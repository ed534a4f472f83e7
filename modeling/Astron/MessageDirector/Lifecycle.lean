import Mathlib.Logic.Function.Basic
import Mathlib.Data.List.Nodup

set_option autoImplicit false

/- Participant lifecycle in `MessageDirector` (src/messagedirector/MessageDirector.cpp) under
every interleaving of its threads: `add_participant`, `remove_participant` one statement at a
time from any thread, `process_terminates` (the cleanup timer, or the tail of
`process_datagram`) and the destructor, together with threaded-mode workers running the fanout
loop of `process_datagram`. `process_terminates` and the destructor both run on the main
thread, so no `process_terminates` runs between the destructor's two statements that move
`m_participants` into `m_terminated_participants`. `is_terminated()` and the subscription index
are not under src/: the flag is set by a step of its own, and a worker's snapshot holds
registered participants whose removal has not begun. The invariant is stated of one
participant's `Registry.standing` at a time. -/

namespace Astron.Lifecycle

/-- How far a `remove_participant(p)` call has got. -/
inductive RemoveStage where
  | unsubscribed  -- `unsubscribe_all(p)` has run
  | erased  -- `p` has been erased from `m_participants`
  | postRemoving  -- `p->post_remove()` is running
  | postRemoved  -- `p->post_remove()` has returned
  | done  -- `p` has been inserted into `m_terminated_participants`
deriving DecidableEq, Repr

/-- The next statement of `remove_participant`. -/
def RemoveStage.next : Option RemoveStage → Option RemoveStage
  | none => some .unsubscribed
  | some .unsubscribed => some .erased
  | some .erased => some .postRemoving
  | some .postRemoving => some .postRemoved
  | some .postRemoved => some .done
  | some .done => none

/-- Whether `remove_participant` has got as far as calling `p->post_remove()`. -/
def RemoveStage.postRemoveCalled : Option RemoveStage → Bool
  | some .postRemoving | some .postRemoved | some .done => true
  | _ => false

/-- Where the destructor stands: not started, after
`m_terminated_participants.insert(m_participants...)`, or after `m_participants.clear()`. -/
inductive DestructorStage where
  | running
  | moved
  | cleared
deriving DecidableEq, Repr

/-- The participant sets of the `MessageDirector` and the ghost history of each participant:
whether it was added, how far its removal has got, how many `post_remove` calls and deletions
it had, and whether the destructor moved it out of `m_participants`. `sweeping` holds what a
running `process_terminates` has moved out and not deleted yet. -/
structure Registry (P : Type) where
  participants : List P
  terminatedSet : List P
  sweeping : List P
  destructor : DestructorStage
  added : P → Bool
  removal : P → Option RemoveStage
  postRemoves : P → Nat
  destroyed : P → Nat
  moved : P → Bool

/-- One statement of a thread that changes the registry. -/
inductive Action (P : Type) where
  | add (p : P)  -- `add_participant(p)` for a new participant
  | remove (p : P)  -- The next statement of `remove_participant(p)`
  | take  -- `process_terminates` moves `m_terminated_participants` out under its lock
  | delete (p : P)  -- `process_terminates` deletes a participant it moved out
  | destructorMove  -- The destructor's `m_terminated_participants.insert(m_participants...)`
  | destructorClear  -- The destructor's `m_participants.clear()`

variable {P : Type} [DecidableEq P]

/-- `std::unordered_set::insert`. -/
def insertSet (set : List P) (p : P) : List P := if p ∈ set then set else set ++ [p]

/-- The effect of the statement of `remove_participant(p)` that reaches `stage`. -/
def removeEffect (r : Registry P) (p : P) : RemoveStage → Registry P
  | .unsubscribed => r
  | .erased => { r with participants := r.participants.erase p }
  | .postRemoving => { r with postRemoves := Function.update r.postRemoves p (r.postRemoves p + 1) }
  | .postRemoved => r
  | .done => { r with terminatedSet := insertSet r.terminatedSet p }

/-- One statement; `none` when it cannot run. -/
def Registry.step (r : Registry P) : Action P → Option (Registry P)
  | .add p =>
    if r.added p then none
    else some { r with participants := insertSet r.participants p,
                       added := Function.update r.added p true }
  | .remove p =>
    match r.added p, RemoveStage.next (r.removal p) with
    | true, some stage =>
      some { removeEffect r p stage with removal := Function.update r.removal p (some stage) }
    | _, _ => none
  | .take =>
    if r.destructor = .moved then none
    else some { r with sweeping := r.sweeping ++ r.terminatedSet, terminatedSet := [] }
  | .delete p =>
    if p ∈ r.sweeping then
      some { r with sweeping := r.sweeping.erase p,
                    destroyed := Function.update r.destroyed p (r.destroyed p + 1) }
    else none
  | .destructorMove =>
    if r.destructor = .running then
      some { r with terminatedSet := r.participants.foldl insertSet r.terminatedSet,
                    moved := fun p => r.moved p || decide (p ∈ r.participants),
                    destructor := .moved }
    else none
  | .destructorClear =>
    if r.destructor = .moved then some { r with participants := [], destructor := .cleared }
    else none

/-- A `MessageDirector` with no participant yet. -/
def Registry.initial : Registry P :=
  ⟨[], [], [], .running, fun _ => false, fun _ => none, fun _ => 0, fun _ => 0, fun _ => false⟩

/-- Statements run one after another. -/
def Registry.run (r : Registry P) : List (Action P) → Option (Registry P)
  | [] => some r
  | a :: actions => (r.step a).bind fun next => next.run actions

/-- The registries some interleaving leads to. -/
inductive Registry.Reachable : Registry P → Prop
  | initial : Registry.Reachable .initial
  | step {r r' : Registry P} (a : Action P) : r.Reachable → r.step a = some r' → r'.Reachable

theorem Registry.Reachable.run {r r' : Registry P} {actions : List (Action P)}
    (reach : r.Reachable) (ran : r.run actions = some r') : r'.Reachable := by
  induction actions generalizing r with
  | nil => exact Option.some.inj ran ▸ reach
  | cons a actions ih =>
    simp only [Registry.run, Option.bind_eq_some] at ran
    obtain ⟨next, stepped, rest⟩ := ran
    exact ih (.step a reach stepped) rest

/-- Everything the registry says about one participant: whether it is in `m_participants`, how
often it is in the terminated set and in a running sweep, the destructor's stage, and its ghost
history. -/
structure Standing where
  registered : Bool
  terminated : Nat
  sweeping : Nat
  destructor : DestructorStage
  added : Bool
  removal : Option RemoveStage
  postRemoves : Nat
  destroyed : Nat
  moved : Bool
deriving DecidableEq, Repr

/-- The standing of participant `p`. -/
def Registry.standing (r : Registry P) (p : P) : Standing :=
  ⟨decide (p ∈ r.participants), r.terminatedSet.count p, r.sweeping.count p, r.destructor,
    r.added p, r.removal p, r.postRemoves p, r.destroyed p, r.moved p⟩

/-- What an action is to one participant. -/
inductive Local where
  | add
  | remove
  | take
  | delete
  | destructorMove
  | destructorClear
  | frame
deriving DecidableEq, Repr

/-- What `a` is to participant `p`: actions on another participant leave it alone. -/
def Action.localAt (a : Action P) (p : P) : Local :=
  match a with
  | .add q => if p = q then .add else .frame
  | .remove q => if p = q then .remove else .frame
  | .take => .take
  | .delete q => if p = q then .delete else .frame
  | .destructorMove => .destructorMove
  | .destructorClear => .destructorClear

/-- How an action moves one participant's standing. -/
def Standing.apply (s : Standing) : Local → Standing
  | .add => { s with registered := true, added := true }
  | .remove =>
    match RemoveStage.next s.removal with
    | some .erased => { s with removal := some .erased, registered := false }
    | some .postRemoving =>
      { s with removal := some .postRemoving, postRemoves := s.postRemoves + 1 }
    | some .done => { s with removal := some .done, terminated := max s.terminated 1 }
    | some stage => { s with removal := some stage }
    | none => s
  | .take => { s with terminated := 0, sweeping := s.sweeping + s.terminated }
  | .delete => { s with sweeping := s.sweeping - 1, destroyed := s.destroyed + 1 }
  | .destructorMove =>
    { s with terminated := if s.registered then max s.terminated 1 else s.terminated,
             moved := s.moved || s.registered, destructor := .moved }
  | .destructorClear => { s with registered := false, destructor := .cleared }
  | .frame => s

/-- What an action needs of one participant's standing to run. -/
def Standing.Enabled (s : Standing) : Local → Prop
  | .add => s.added = false
  | .remove => s.added = true
  | .take => s.destructor ≠ .moved
  | .delete => 0 < s.sweeping
  | .destructorMove => s.destructor = .running
  | .destructorClear => s.destructor = .moved
  | .frame => True

theorem mem_insertSet {set : List P} {p q : P} : q ∈ insertSet set p ↔ q ∈ set ∨ q = p := by
  unfold insertSet
  split_ifs with h
  · exact ⟨.inl, fun | .inl m => m | .inr rfl => h⟩
  · simp

theorem insertSet_nodup {set : List P} (nodup : set.Nodup) (p : P) : (insertSet set p).Nodup := by
  unfold insertSet
  split_ifs with h
  · exact nodup
  · exact List.nodup_append.2 ⟨nodup, List.nodup_singleton p, by simpa using h⟩

theorem count_insertSet_self (set : List P) (p : P) :
    (insertSet set p).count p = max (set.count p) 1 := by
  unfold insertSet
  split_ifs with h
  · have := List.count_pos_iff.2 h
    omega
  · simp [List.count_eq_zero_of_not_mem h]

theorem count_insertSet_of_ne {set : List P} {p q : P} (ne : q ≠ p) :
    (insertSet set p).count q = set.count q := by
  unfold insertSet
  split_ifs <;> simp [List.count_singleton', ne]

theorem count_foldl_insertSet (l set : List P) (p : P) :
    (l.foldl insertSet set).count p = if p ∈ l then max (set.count p) 1 else set.count p := by
  induction l generalizing set with
  | nil => simp
  | cons q l ih =>
    by_cases same : p = q
    · subst same
      simp only [List.foldl_cons, ih, count_insertSet_self, List.mem_cons_self, if_true]
      split <;> omega
    · simp [ih, count_insertSet_of_ne same, same]

theorem Registry.step_standing {r r' : Registry P} {a : Action P} (nodup : r.participants.Nodup)
    (stepped : r.step a = some r') (p : P) :
    (r.standing p).Enabled (a.localAt p) ∧ r'.standing p = (r.standing p).apply (a.localAt p) := by
  cases a with
  | add q =>
    simp only [Registry.step, Bool.not_eq_true] at stepped
    split_ifs at stepped with fresh
    cases stepped
    by_cases same : p = q
    · subst same
      simp [Registry.standing, Action.localAt, Standing.apply, Standing.Enabled, fresh,
        mem_insertSet]
    · simp [Registry.standing, Action.localAt, Standing.apply, Standing.Enabled, same,
        mem_insertSet]
  | remove q =>
    simp only [Registry.step] at stepped
    split at stepped
    · rename_i stage added next
      cases stepped
      by_cases same : p = q
      · subst same
        refine ⟨by simp [Registry.standing, Action.localAt, Standing.Enabled, added], ?_⟩
        cases stage <;>
          simp [Registry.standing, Action.localAt, Standing.apply, removeEffect, next,
            nodup.not_mem_erase, count_insertSet_self]
      · cases stage <;>
          simp [Registry.standing, Action.localAt, Standing.apply, Standing.Enabled, removeEffect,
            same, List.mem_erase_of_ne same, count_insertSet_of_ne same]
    · cases stepped
  | take =>
    simp only [Registry.step] at stepped
    split_ifs at stepped with moved
    cases stepped
    simp [Registry.standing, Action.localAt, Standing.apply, Standing.Enabled, moved, Nat.add_comm]
  | delete q =>
    simp only [Registry.step] at stepped
    split_ifs at stepped with sweeping
    cases stepped
    by_cases same : p = q
    · subst same
      simp [Registry.standing, Action.localAt, Standing.apply, Standing.Enabled,
        List.count_pos_iff.2 sweeping]
    · simp [Registry.standing, Action.localAt, Standing.apply, Standing.Enabled, same]
  | destructorMove =>
    simp only [Registry.step] at stepped
    split_ifs at stepped with running
    cases stepped
    by_cases member : p ∈ r.participants <;>
      simp [Registry.standing, Action.localAt, Standing.apply, Standing.Enabled, running,
        count_foldl_insertSet, member]
  | destructorClear =>
    simp only [Registry.step] at stepped
    split_ifs at stepped with moved
    cases stepped
    simp [Registry.standing, Action.localAt, Standing.apply, Standing.Enabled, moved]

/-- What holds of every participant's standing in every reachable registry. -/
structure Standing.Ok (s : Standing) : Prop where
  disjoint : s.destructor ≠ .moved → s.registered = true → s.terminated = 0
  sweptOut : 0 < s.sweeping → s.registered = false
  registered : s.registered = true →
    s.added = true ∧ (s.removal = none ∨ s.removal = some .unsubscribed)
  fresh : s.added = false → s.removal = none ∧ s.moved = false
  notMoved : s.destructor = .running → s.moved = false
  postRemoves : s.postRemoves = if RemoveStage.postRemoveCalled s.removal then 1 else 0
  tokens : (s.moved = true → s.removal = none) →
    s.destroyed + s.terminated + s.sweeping =
      if s.removal = some .done ∨ s.moved = true then 1 else 0
  live : s.registered = true → s.destroyed = 0

theorem Standing.Ok.apply {s : Standing} (ok : s.Ok) {l : Local} (enabled : s.Enabled l) :
    (s.apply l).Ok := by
  obtain ⟨registered, terminated, sweeping, destructor, added, removal, postRemoves, destroyed,
    moved⟩ := s
  obtain ⟨disjoint, sweptOut, reg, fresh, notMoved, posts, tokens, live⟩ := ok
  dsimp only [Standing.Enabled] at *
  cases l <;> dsimp only [Standing.apply]
  case add =>
    obtain ⟨rfl, rfl⟩ := fresh enabled
    have none : destroyed + terminated + sweeping = 0 := by simpa using tokens nofun
    refine ⟨fun _ _ => ?_, fun _ => ?_, fun _ => ⟨rfl, .inl rfl⟩, nofun, fun _ => rfl, posts,
      tokens, fun _ => ?_⟩ <;> dsimp only at * <;> omega
  case remove =>
    subst enabled
    rcases removal with _ | ⟨_ | _ | _ | _ | _⟩ <;> dsimp only [RemoveStage.next]
    case none =>
      exact ⟨disjoint, sweptOut, fun _ => ⟨rfl, .inr rfl⟩, nofun, notMoved, posts,
        fun _ => by simpa using tokens (fun _ => rfl), live⟩
    case unsubscribed =>
      exact ⟨fun _ => nofun, fun _ => rfl, nofun, nofun, notMoved, posts,
        fun h => by simpa using tokens (by simpa using h), nofun⟩
    all_goals obtain rfl : registered = false := by cases registered <;> simp_all
    case erased =>
      exact ⟨fun _ => nofun, fun _ => rfl, nofun, nofun, notMoved,
        by simpa [RemoveStage.postRemoveCalled] using posts,
        fun h => by simpa using tokens (by simpa using h), nofun⟩
    case postRemoving =>
      exact ⟨fun _ => nofun, fun _ => rfl, nofun, nofun, notMoved, posts,
        fun h => by simpa using tokens (by simpa using h), nofun⟩
    case postRemoved =>
      refine ⟨fun _ => nofun, fun _ => rfl, nofun, nofun, notMoved, posts, fun h => ?_, nofun⟩
      obtain rfl : moved = false := by simpa using h
      have none : destroyed + terminated + sweeping = 0 := by simpa using tokens nofun
      dsimp only
      rw [if_pos (.inl rfl)]
      omega
    case done =>
      exact ⟨fun _ => nofun, fun _ => rfl, nofun, nofun, notMoved, posts, tokens, nofun⟩
  case take =>
    refine ⟨fun _ _ => rfl, fun _ => ?_, reg, fresh, notMoved, posts, fun h => ?_, live⟩ <;>
      dsimp only at *
    · cases registered
      · rfl
      · exact sweptOut (by have := disjoint enabled rfl; omega)
    · rw [← tokens h]
      omega
  case delete =>
    refine ⟨disjoint, fun _ => sweptOut enabled, reg, fresh, notMoved, posts, fun h => ?_,
      fun h => absurd (sweptOut enabled) (by simpa using h)⟩
    dsimp only at *
    rw [← tokens h]
    omega
  case destructorMove =>
    subst enabled
    obtain rfl := notMoved rfl
    cases registered
    · exact ⟨nofun, sweptOut, reg, fresh, nofun, posts, tokens, live⟩
    · obtain ⟨rfl, rfl | rfl⟩ := reg rfl
      · have none : destroyed + terminated + sweeping = 0 := by simpa using tokens nofun
        refine ⟨nofun, sweptOut, fun _ => ⟨rfl, .inl rfl⟩, nofun, nofun, posts, fun _ => ?_,
          live⟩
        dsimp only
        simp only [if_true, Bool.or_true, or_true]
        omega
      · exact ⟨nofun, sweptOut, fun _ => ⟨rfl, .inr rfl⟩, nofun, nofun, posts,
          fun h => absurd (h rfl) nofun, live⟩
  case destructorClear =>
    exact ⟨fun _ => nofun, fun _ => rfl, nofun, fresh, nofun, posts, tokens, nofun⟩
  case frame => exact ⟨disjoint, sweptOut, reg, fresh, notMoved, posts, tokens, live⟩

/-- The invariant of a registry: `m_participants` holds no participant twice, and every
participant's standing is `Standing.Ok`. -/
structure RegistryInv (r : Registry P) : Prop where
  nodup : r.participants.Nodup
  standing : ∀ p, (r.standing p).Ok

theorem RegistryInv.initial : RegistryInv (Registry.initial : Registry P) :=
  ⟨List.nodup_nil, fun _ => ⟨nofun, nofun, nofun, fun _ => ⟨rfl, rfl⟩, fun _ => rfl, rfl,
    fun _ => rfl, nofun⟩⟩

theorem Registry.step_nodup {r r' : Registry P} {a : Action P} (nodup : r.participants.Nodup)
    (stepped : r.step a = some r') : r'.participants.Nodup := by
  cases a with
  | add q =>
    simp only [Registry.step] at stepped
    split_ifs at stepped
    cases stepped
    exact insertSet_nodup nodup q
  | remove q =>
    simp only [Registry.step] at stepped
    split at stepped
    · rename_i stage _ _
      cases stepped
      cases stage <;> first | exact nodup | exact nodup.erase q
    · cases stepped
  | take | delete | destructorMove | destructorClear =>
    simp only [Registry.step] at stepped
    split_ifs at stepped
    cases stepped
    first | exact nodup | exact List.nodup_nil

theorem RegistryInv.step {r r' : Registry P} {a : Action P} (inv : RegistryInv r)
    (stepped : r.step a = some r') : RegistryInv r' :=
  ⟨Registry.step_nodup inv.nodup stepped, fun p => by
    obtain ⟨enabled, moves⟩ := Registry.step_standing inv.nodup stepped p
    exact moves ▸ (inv.standing p).apply enabled⟩

theorem Registry.Reachable.inv {r : Registry P} (reach : r.Reachable) : RegistryInv r := by
  induction reach with
  | initial => exact .initial
  | step _ _ stepped ih => exact ih.step stepped

/-- A worker in the fanout loop of `process_datagram`: the snapshot targets it has still to
visit, whether the first one passed the worker's `is_terminated()` check (its
`handle_datagram` call is next), and whether no `process_terminates` has moved the terminated
set out since the snapshot was taken. -/
structure Fanout (P : Type) where
  targets : List P
  checked : Bool
  clean : Bool

/-- The registry, the participants' terminated flags, and the workers. -/
structure Director (P : Type) where
  registry : Registry P
  isTerminated : P → Bool
  workers : Nat → Fanout P

/-- One statement of some thread. -/
inductive Event (P : Type) where
  | registry (a : Action P)  -- A statement that changes the registry
  | markTerminated (p : P)  -- Participant `p` is marked terminated
  | snapshot (worker : Nat) (targets : List P)
  | check (worker : Nat)  -- A worker runs `is_terminated()` on its next target
  | call (worker : Nat)  -- A worker calls `handle_datagram` on a target that passed its check

/-- Whether an action is the step of `process_terminates` that moves the terminated set out. -/
def Action.isTake : Action P → Bool
  | .take => true
  | _ => false

/-- One statement; `none` when it cannot run. -/
def Director.step (d : Director P) : Event P → Option (Director P)
  | .registry a => (d.registry.step a).map fun r =>
    { d with registry := r,
             workers := if a.isTake then fun w => { d.workers w with clean := false }
               else d.workers }
  | .markTerminated p => some { d with isTerminated := Function.update d.isTerminated p true }
  | .snapshot w targets =>
    if (d.workers w).targets = [] ∧
        ∀ q ∈ targets, q ∈ d.registry.participants ∧ d.registry.removal q = none then
      some { d with workers := Function.update d.workers w ⟨targets, false, true⟩ }
    else none
  | .check w =>
    match (d.workers w).targets, (d.workers w).checked with
    | q :: rest, false =>
      let checked : Fanout P := if d.isTerminated q then { d.workers w with targets := rest }
        else { d.workers w with checked := true }
      some { d with workers := Function.update d.workers w checked }
    | _, _ => none
  | .call w =>
    match (d.workers w).targets, (d.workers w).checked with
    | _ :: rest, true =>
      let called : Fanout P := { d.workers w with targets := rest, checked := false }
      some { d with workers := Function.update d.workers w called }
    | _, _ => none

/-- No participant yet, none terminated, and every worker idle. -/
def Director.initial : Director P := ⟨.initial, fun _ => false, fun _ => ⟨[], false, true⟩⟩

/-- Statements run one after another. -/
def Director.run (d : Director P) : List (Event P) → Option (Director P)
  | [] => some d
  | e :: events => (d.step e).bind fun next => next.run events

/-- The states some interleaving leads to. -/
inductive Director.Reachable : Director P → Prop
  | initial : Director.Reachable .initial
  | step {d d' : Director P} (e : Event P) : d.Reachable → d.step e = some d' → d'.Reachable

theorem Director.Reachable.run {d d' : Director P} {events : List (Event P)}
    (reach : d.Reachable) (ran : d.run events = some d') : d'.Reachable := by
  induction events generalizing d with
  | nil => exact Option.some.inj ran ▸ reach
  | cons e events ih =>
    simp only [Director.run, Option.bind_eq_some] at ran
    obtain ⟨next, stepped, rest⟩ := ran
    exact ih (.step e reach stepped) rest

theorem Director.step_registry {d d' : Director P} {e : Event P} (stepped : d.step e = some d') :
    d'.registry = d.registry ∨ ∃ a, e = .registry a ∧ d.registry.step a = some d'.registry := by
  cases e with
  | registry a =>
    simp only [Director.step, Option.map_eq_some'] at stepped
    obtain ⟨r, stepped, rfl⟩ := stepped
    exact .inr ⟨a, rfl, stepped⟩
  | markTerminated p => cases stepped; exact .inl rfl
  | snapshot w targets =>
    simp only [Director.step] at stepped
    split_ifs at stepped
    cases stepped
    exact .inl rfl
  | check w | call w =>
    simp only [Director.step] at stepped
    split at stepped
    · cases stepped
      exact .inl rfl
    · cases stepped

theorem Director.Reachable.registry {d : Director P} (reach : d.Reachable) :
    d.registry.Reachable := by
  induction reach with
  | initial => exact .initial
  | step e _ stepped ih =>
    rcases Director.step_registry stepped with same | ⟨a, -, stepped⟩
    · exact same ▸ ih
    · exact .step a ih stepped

theorem Standing.apply_unswept {s : Standing} {l : Local} (enabled : s.Enabled l)
    (notTake : l ≠ .take) (unswept : s.sweeping = 0) :
    (s.apply l).sweeping = 0 ∧ (s.apply l).destroyed = s.destroyed := by
  cases l with
  | remove => dsimp only [Standing.apply]; split <;> exact ⟨unswept, rfl⟩
  | take => exact absurd rfl notTake
  | delete => exact absurd unswept (Nat.pos_iff_ne_zero.1 enabled)
  | _ => exact ⟨unswept, rfl⟩

theorem Action.localAt_ne_take {a : Action P} (notTake : a.isTake = false) (p : P) :
    a.localAt p ≠ .take := by
  cases a <;> simp [Action.localAt, Action.isTake] at * <;> split <;> simp

/-- A worker whose snapshot no sweep has taken the terminated set since holds only targets
that are not destroyed and in no running sweep. -/
def CleanTargets (d : Director P) : Prop :=
  ∀ w, (d.workers w).clean = true → ∀ q ∈ (d.workers w).targets,
    d.registry.destroyed q = 0 ∧ q ∉ d.registry.sweeping

theorem CleanTargets.step {d d' : Director P} {e : Event P} (inv : RegistryInv d.registry)
    (clean : CleanTargets d) (stepped : d.step e = some d') : CleanTargets d' := by
  cases e with
  | registry a =>
    simp only [Director.step, Option.map_eq_some'] at stepped
    obtain ⟨r, stepped, rfl⟩ := stepped
    cases take : a.isTake
    · intro w isClean q target
      simp only [take, Bool.false_eq_true, if_false] at isClean target
      obtain ⟨destroyed, unswept⟩ := clean w isClean q target
      obtain ⟨enabled, moves⟩ := Registry.step_standing inv.nodup stepped q
      have := Standing.apply_unswept enabled (Action.localAt_ne_take take q)
        (List.count_eq_zero.2 unswept)
      rw [← moves] at this
      exact ⟨this.2.trans destroyed, List.count_eq_zero.1 this.1⟩
    · intro w isClean
      simp [take] at isClean
  | markTerminated p => cases stepped; exact clean
  | snapshot w targets =>
    simp only [Director.step] at stepped
    split_ifs at stepped with idle
    cases stepped
    intro v isClean q target
    by_cases same : v = w
    · subst same
      simp only [Function.update_same] at target
      obtain ⟨member, -⟩ := idle.2 q target
      have ok := inv.standing q
      have registered : (d.registry.standing q).registered = true := by
        simpa [Registry.standing] using member
      refine ⟨ok.live registered, fun swept => ?_⟩
      simpa [registered] using ok.sweptOut (List.count_pos_iff.2 swept)
    · simp only [Function.update_noteq same] at isClean target
      exact clean v isClean q target
  | check w | call w =>
    simp only [Director.step] at stepped
    split at stepped
    · cases stepped
      intro v isClean q target
      by_cases same : v = w
      · subst same
        have kept : (d.workers v).clean = true ∧ q ∈ (d.workers v).targets := by
          simp only [Function.update_same] at isClean target
          (try split_ifs at isClean target) <;> simp_all
        exact clean v kept.1 q kept.2
      · simp only [Function.update_noteq same] at isClean target
        exact clean v isClean q target
    · cases stepped

theorem Director.Reachable.cleanTargets {d : Director P} (reach : d.Reachable) :
    CleanTargets d := by
  induction reach with
  | initial => exact fun _ _ _ target => nomatch target
  | step _ reach stepped ih => exact ih.step reach.registry.inv stepped

/-- In every interleaving, a worker calls `handle_datagram` only on the target that its own
`is_terminated()` check has just passed, and if no `process_terminates` has taken the
terminated set since the worker's snapshot, that target has not been destroyed. -/
theorem handleDatagram_after_check {d d' : Director P} (reach : d.Reachable) {w : Nat}
    (called : d.step (.call w) = some d') :
    ∃ q rest, (d.workers w).targets = q :: rest ∧ (d.workers w).checked = true ∧
      ((d.workers w).clean = true → d.registry.destroyed q = 0) := by
  simp only [Director.step] at called
  split at called
  · rename_i q rest targets checked
    exact ⟨q, rest, targets, checked, fun isClean =>
      (reach.cleanTargets w isClean q (by simp [targets])).1⟩
  · cases called

/-- Worker 0 snapshots participant 0, checks it, and calls `handle_datagram` on it, with no
sweep in between. -/
theorem handleDatagram_after_check_run :
    ∃ d d' : Director Nat, d.Reachable ∧ d.step (.call 0) = some d' ∧
      ∃ q rest, (d.workers 0).targets = q :: rest ∧ (d.workers 0).checked = true ∧
        ((d.workers 0).clean = true → d.registry.destroyed q = 0) :=
  let reach := Director.Reachable.initial.run (show Director.run .initial
    [.registry (.add 0), .snapshot 0 [0], .check 0] = some _ from rfl)
  ⟨_, _, reach, rfl, handleDatagram_after_check reach rfl⟩

/-- Worker 0 snapshots participant 0 and its `is_terminated()` check passes. Another thread
then marks 0 terminated and runs `remove_participant(0)` to the end, and the cleanup timer's
`process_terminates` deletes it. The worker's next statement calls `handle_datagram` on the
terminated, deleted participant. -/
theorem handleDatagram_on_destroyed :
    ∃ d d' : Director Nat, d.Reachable ∧ (d.workers 0).targets = [0] ∧
      (d.workers 0).checked = true ∧ d.isTerminated 0 = true ∧ d.registry.destroyed 0 = 1 ∧
      d.step (.call 0) = some d' :=
  ⟨_, _, Director.Reachable.initial.run (show Director.run .initial [.registry (.add 0),
    .snapshot 0 [0], .check 0, .markTerminated 0, .registry (.remove 0), .registry (.remove 0),
    .registry (.remove 0), .registry (.remove 0), .registry (.remove 0), .registry .take,
    .registry (.delete 0)] = some _ from rfl), rfl, rfl, rfl, rfl, rfl⟩

end Astron.Lifecycle

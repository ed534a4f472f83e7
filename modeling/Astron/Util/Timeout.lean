import Mathlib.Data.List.Basic

set_option autoImplicit false

/- `Timeout` (src/util/Timeout.cpp): a one-shot timer. `reset()` arms an asio `steady_timer`
whose handler, when the wait succeeds, runs `timer_callback()`: that calls the callback unless
the atomic `m_callback_disabled` is already set, and deletes the object either way. `cancel()`
sets the flag from any thread; on the main thread it deletes the object at once if a timer
exists, and from another thread it posts a task that calls `cancel()` again on the main thread.
The io_context runs one job at a time in queue order; the timer queues its handler when the
deadline passes or the wait is cancelled, and `TaskQueue::enqueue_task` posts to the same
context. The owner calls nothing on a deleted object. -/

namespace Astron

/-- The fields of a live `Timeout` that its methods test. -/
structure Timeout where
  timer : Bool  -- `m_timer != nullptr`
  callback : Bool  -- `m_callback != nullptr`
  callbackDisabled : Bool  -- `m_callback_disabled`
deriving DecidableEq, Repr

namespace Timeout

/-- A job on the main thread's io_context. -/
inductive Job
  | waitHandler (success : Bool)
  | cancelTask  -- The task a `cancel()` off the main thread posts: `self->cancel()`
deriving DecidableEq, Repr

/-- Whether running the job dereferences its captured `self`. -/
def Job.usesSelf : Job → Bool
  | .waitHandler success => success
  | .cancelTask => true

/-- The object (if not deleted), its timer's wait, the io_context's queue, and the ghosts. -/
structure World where
  obj : Option Timeout  -- The object, or `none` once `delete this` ran
  waiting : Bool  -- A wait on `m_timer` that has neither expired nor been cancelled
  queue : List Job  -- The jobs queued on the io_context, in the order it runs them
  fired : Nat  -- How many times `m_callback()` ran
  cancelled : Nat  -- How many of the owner's `cancel()` calls returned true
  freedUse : Bool  -- A job dereferenced the deleted object
  assertFailed : Bool  -- The destructor's `assert(m_callback_disabled.load())` failed
deriving DecidableEq, Repr

/-- `Timeout(ms, f)`, or `Timeout()` with no callback: no timer and the flag clear. -/
def World.construct (callback : Bool) : World :=
  ⟨some ⟨false, callback, false⟩, false, [], 0, 0, false, false⟩

/-- `m_timer->cancel()`: a wait that has not completed completes with `operation_aborted`. -/
def World.cancelTimer (w : World) : World :=
  { w with waiting := false,
           queue := if w.waiting then w.queue ++ [.waitHandler false] else w.queue }

/-- `destroy_timer()`: cancel the timer if there is one, then `delete this`, whose destructor
asserts `m_callback_disabled`. -/
def World.destroyTimer (w : World) (t : Timeout) : World :=
  let w := if t.timer then w.cancelTimer else w
  { w with obj := none, assertFailed := w.assertFailed || !t.callbackDisabled }

/-- `timer_callback()`: the exchange runs only when a callback is set, and calls it only if the
flag was clear. -/
def World.timerCallback (w : World) (t : Timeout) : World :=
  if t.callback then
    let w := if t.callbackDisabled then w else { w with fired := w.fired + 1 }
    w.destroyTimer { t with callbackDisabled := true }
  else w.destroyTimer t

/-- `reset()`: create the timer if there is none, cancel its wait, and wait again. -/
def World.reset (w : World) (t : Timeout) : World :=
  { w.cancelTimer with obj := some { t with timer := true }, waiting := true }

/-- `cancel()` on the main thread or another one; the result is `already_cancelled`, true when
this call is the one that set the flag. -/
def World.cancel (w : World) (t : Timeout) (onMain : Bool) : Bool × World :=
  let alreadyCancelled := !t.callbackDisabled
  let t := { t with callbackDisabled := true }
  let w := { w with obj := some t }
  (alreadyCancelled,
    if !onMain then { w with queue := w.queue ++ [.cancelTask] }
    else if t.timer then w.destroyTimer t
    else w)

/-- The main thread running one job taken off the queue. -/
def World.runJob (w : World) : Job → World
  | .waitHandler success =>
    if success then
      match w.obj with
      | some t => w.timerCallback t
      | none => { w with freedUse := true }
    else w
  | .cancelTask =>
    match w.obj with
    | some t => (w.cancel t true).2
    | none => { w with freedUse := true }

/-- What can happen next: a call of the owner, the deadline of the wait passing, or the
io_context running its next job. -/
inductive Event
  | setCallback (callback : Bool)
  | reset
  | cancel (onMain : Bool)
  | expire
  | runJob
deriving DecidableEq, Repr

/-- One step; `none` when the event cannot happen (a call on a deleted object, no wait to
expire, nothing queued). -/
def World.step (w : World) : Event → Option World
  | .setCallback callback => w.obj.map fun t => { w with obj := some { t with callback := callback } }
  | .reset => w.obj.map w.reset
  | .cancel onMain => w.obj.map fun t =>
    let result := w.cancel t onMain
    { result.2 with cancelled := result.2.cancelled + if result.1 then 1 else 0 }
  | .expire =>
    if w.waiting then some { w with waiting := false, queue := w.queue ++ [.waitHandler true] }
    else none
  | .runJob =>
    match w.queue with
    | [] => none
    | job :: rest => some ({ w with queue := rest }.runJob job)

/-- A run: the events in order, `none` if one of them cannot happen. -/
def World.run (w : World) : List Event → Option World
  | [] => some w
  | e :: events => (w.step e).bind fun w => w.run events

/-- The io_context running up to `n` queued jobs. -/
def World.runJobs (w : World) : Nat → World
  | 0 => w
  | n + 1 =>
    match w.step .runJob with
    | some w => w.runJobs n
    | none => w

theorem run_keeps (P : World → Prop) (allowed : Event → Prop)
    (keeps : ∀ {w w' : World} {e : Event}, allowed e → P w → w.step e = some w' → P w') :
    ∀ {w w' : World} {events : List Event}, (∀ e ∈ events, allowed e) → P w →
      w.run events = some w' → P w'
  | _, _, [], _, holds, ran => by cases ran; exact holds
  | _, _, e :: events, ok, holds, ran => by
    obtain ⟨next, stepped, ran⟩ := Option.bind_eq_some.mp ran
    exact run_keeps P allowed keeps (fun e' mem => ok e' (List.mem_cons_of_mem e mem))
      (keeps (ok e (List.mem_cons_self e events)) holds stepped) ran

theorem runJob_cases (w : World) (job : Job) :
    w.runJob job = w ∨
      (∃ t, w.obj = some t ∧ w.runJob job = w.timerCallback t) ∨
      (∃ t, w.obj = some t ∧ w.runJob job = (w.cancel t true).2) ∨
      (w.obj = none ∧ w.runJob job = { w with freedUse := true }) := by
  cases job with
  | waitHandler success =>
    cases success
    · exact .inl rfl
    · cases obj : w.obj with
      | some t => exact .inr (.inl ⟨t, rfl, by simp [World.runJob, obj]⟩)
      | none => exact .inr (.inr (.inr ⟨rfl, by simp [World.runJob, obj]⟩))
  | cancelTask =>
    cases obj : w.obj with
    | some t => exact .inr (.inr (.inl ⟨t, rfl, by simp [World.runJob, obj]⟩))
    | none => exact .inr (.inr (.inr ⟨rfl, by simp [World.runJob, obj]⟩))

theorem step_cases {w w' : World} {e : Event} (stepped : w.step e = some w') :
    (∃ t callback, w.obj = some t ∧ e = .setCallback callback ∧
      w' = { w with obj := some { t with callback := callback } }) ∨
    (∃ t, w.obj = some t ∧ w' = w.reset t) ∨
    (∃ t onMain, w.obj = some t ∧ w' = { (w.cancel t onMain).2 with
      cancelled := (w.cancel t onMain).2.cancelled + if (w.cancel t onMain).1 then 1 else 0 }) ∨
    (w.waiting = true ∧ w' = { w with waiting := false, queue := w.queue ++ [.waitHandler true] }) ∨
    (∃ job rest, w.queue = job :: rest ∧ w' = { w with queue := rest }.runJob job) := by
  cases e with
  | setCallback callback =>
    obtain ⟨t, obj, rfl⟩ := Option.map_eq_some'.mp stepped
    exact .inl ⟨t, callback, obj, rfl, rfl⟩
  | reset =>
    obtain ⟨t, obj, rfl⟩ := Option.map_eq_some'.mp stepped
    exact .inr (.inl ⟨t, obj, rfl⟩)
  | cancel onMain =>
    obtain ⟨t, obj, rfl⟩ := Option.map_eq_some'.mp stepped
    exact .inr (.inr (.inl ⟨t, onMain, obj, rfl⟩))
  | expire =>
    simp only [World.step] at stepped
    split at stepped <;> cases stepped
    exact .inr (.inr (.inr (.inl ⟨‹_›, rfl⟩)))
  | runJob =>
    simp only [World.step] at stepped
    split at stepped <;> cases stepped
    exact .inr (.inr (.inr (.inr ⟨_, _, ‹_›, rfl⟩)))

/-- `m_callback_disabled` as the owner and the timer see it: a deleted object takes no more
exchanges. -/
def World.disabled (w : World) : Bool :=
  match w.obj with
  | some t => t.callbackDisabled
  | none => true

/-- The flag, while clear, is one token; the callback running and a `cancel()` returning true
each take it. -/
def World.tokens (w : World) : Nat :=
  w.fired + w.cancelled + if w.disabled then 0 else 1

theorem destroyTimer_tokens (w : World) (t : Timeout) :
    (w.destroyTimer t).tokens = w.fired + w.cancelled := by
  unfold World.destroyTimer; split <;> rfl

theorem tokens_of_obj {w : World} {t : Timeout} (obj : w.obj = some t) :
    w.tokens = w.fired + w.cancelled + if t.callbackDisabled then 0 else 1 := by
  simp only [World.tokens, World.disabled, obj]

theorem timerCallback_tokens {w : World} {t : Timeout} (obj : w.obj = some t) :
    (w.timerCallback t).tokens ≤ w.tokens := by
  unfold World.timerCallback
  rw [tokens_of_obj obj]
  split <;> split <;> simp [destroyTimer_tokens, *]
  omega

theorem tokens_cancelled_add (w : World) (k : Nat) :
    { w with cancelled := w.cancelled + k }.tokens = w.tokens + k := by
  simp only [World.tokens, World.disabled]
  omega

theorem cancel_fst (w : World) (t : Timeout) (onMain : Bool) :
    (w.cancel t onMain).1 = !t.callbackDisabled := rfl

theorem cancel_tokens (w : World) (t : Timeout) (onMain : Bool) :
    (w.cancel t onMain).2.tokens = w.fired + w.cancelled := by
  unfold World.cancel
  dsimp only
  split
  · rfl
  · split
    · exact destroyTimer_tokens _ _
    · rfl

theorem step_tokens {w w' : World} {e : Event} (stepped : w.step e = some w') :
    w'.tokens ≤ w.tokens := by
  rcases step_cases stepped with ⟨t, _, obj, -, rfl⟩ | ⟨t, obj, rfl⟩ | ⟨t, onMain, obj, rfl⟩ |
    ⟨-, rfl⟩ | ⟨job, rest, -, rfl⟩
  · rw [tokens_of_obj obj]; rfl
  · rw [tokens_of_obj obj]; rfl
  · rw [tokens_cancelled_add, cancel_tokens, tokens_of_obj obj, cancel_fst]
    cases t.callbackDisabled <;> rfl
  · rfl
  · show _ ≤ ({ w with queue := rest } : World).tokens
    rcases runJob_cases { w with queue := rest } job with ran | ⟨t, obj, ran⟩ | ⟨t, obj, ran⟩ |
      ⟨-, ran⟩ <;> rw [ran]
    · exact timerCallback_tokens obj
    · rw [cancel_tokens, tokens_of_obj obj]; omega
    · rfl

theorem construct_tokens (callback : Bool) : (World.construct callback).tokens = 1 := rfl

/-- `timer_callback` and `cancel` both exchange `m_callback_disabled`, and only the exchange that
finds it clear acts: in every run the callback runs at most once, and never in a run where a
`cancel()` returned true. -/
theorem fired_add_cancelled_le_one {callback : Bool} {events : List Event} {w : World}
    (ran : (World.construct callback).run events = some w) : w.fired + w.cancelled ≤ 1 := by
  have bound : w.tokens ≤ 1 := run_keeps (fun w => w.tokens ≤ 1) (fun _ => True)
    (fun _ below stepped => le_trans (step_tokens stepped) below) (fun _ _ => trivial)
    (construct_tokens callback).le ran
  simp only [World.tokens] at bound
  omega

/-- An expiry already queued when an off-thread `cancel()` sets the flag still deletes the
object, without calling back; the cancel returned true. -/
theorem fired_add_cancelled_expiry_first :
    let w : World := ⟨none, false, [.cancelTask], 0, 1, false, false⟩
    (World.construct true).run [.reset, .expire, .cancel false, .runJob] = some w ∧
      w.fired + w.cancelled ≤ 1 := by
  intro w
  have ran : (World.construct true).run [.reset, .expire, .cancel false, .runJob] = some w := rfl
  exact ⟨ran, fired_add_cancelled_le_one ran⟩

@[simp] theorem destroyTimer_obj (w : World) (t : Timeout) : (w.destroyTimer t).obj = none := rfl

@[simp] theorem destroyTimer_waiting (w : World) (t : Timeout) :
    (w.destroyTimer t).waiting = (w.waiting && !t.timer) := by
  unfold World.destroyTimer World.cancelTimer
  cases t.timer <;> simp

@[simp] theorem destroyTimer_assertFailed (w : World) (t : Timeout) :
    (w.destroyTimer t).assertFailed = (w.assertFailed || !t.callbackDisabled) := by
  unfold World.destroyTimer
  split <;> rfl

@[simp] theorem timerCallback_obj (w : World) (t : Timeout) : (w.timerCallback t).obj = none := by
  unfold World.timerCallback
  split <;> simp

@[simp] theorem timerCallback_waiting (w : World) (t : Timeout) :
    (w.timerCallback t).waiting = (w.waiting && !t.timer) := by
  unfold World.timerCallback
  split <;> (try split) <;> simp

@[simp] theorem timerCallback_assertFailed (w : World) (t : Timeout) :
    (w.timerCallback t).assertFailed = (w.assertFailed || !(t.callback || t.callbackDisabled)) := by
  unfold World.timerCallback
  split <;> (try split) <;> simp_all

@[simp] theorem cancel_obj (w : World) (t : Timeout) (onMain : Bool) :
    (w.cancel t onMain).2.obj =
      if onMain && t.timer then none else some { t with callbackDisabled := true } := by
  unfold World.cancel
  cases onMain <;> cases t.timer <;> rfl

@[simp] theorem cancel_waiting (w : World) (t : Timeout) (onMain : Bool) :
    (w.cancel t onMain).2.waiting = (w.waiting && !(onMain && t.timer)) := by
  unfold World.cancel
  cases onMain <;> cases t.timer <;> simp

@[simp] theorem cancel_assertFailed (w : World) (t : Timeout) (onMain : Bool) :
    (w.cancel t onMain).2.assertFailed = w.assertFailed := by
  unfold World.cancel
  cases onMain <;> cases t.timer <;> simp

/-- Whether the object exists and has a timer. -/
def World.hasTimer (w : World) : Bool :=
  match w.obj with
  | some t => t.timer
  | none => false

/-- A wait is pending only on the timer of a live object: `destroy_timer` cancels it. -/
def Armed (w : World) : Prop := w.waiting = true → w.hasTimer = true

theorem Armed.step {w w' : World} {e : Event} (armed : Armed w) (stepped : w.step e = some w') :
    Armed w' := by
  unfold Armed World.hasTimer at *
  rcases step_cases stepped with ⟨t, _, obj, -, rfl⟩ | ⟨t, obj, rfl⟩ | ⟨t, onMain, obj, rfl⟩ |
    ⟨-, rfl⟩ | ⟨job, rest, -, rfl⟩
  · simpa [obj] using armed
  · simp [World.reset]
  · cases onMain <;> cases timer : t.timer <;> simp_all
  · simp
  · rcases runJob_cases { w with queue := rest } job with ran | ⟨t, obj, ran⟩ | ⟨t, obj, ran⟩ |
      ⟨obj, ran⟩ <;> rw [ran]
    · exact armed
    · cases timer : t.timer <;> simp_all
    · cases timer : t.timer <;> simp_all
    · exact armed

theorem runJob_deleted {w : World} (deleted : w.obj = none) (job : Job) :
    w.runJob job = { w with freedUse := w.freedUse || job.usesSelf } := by
  cases w
  cases job with
  | waitHandler success => cases success <;> simp_all [World.runJob, Job.usesSelf]
  | cancelTask => simp_all [World.runJob, Job.usesSelf]

theorem runJobs_deleted (jobs : List Job) : ∀ {w : World}, w.obj = none → w.queue = jobs →
    (w.runJobs jobs.length).freedUse = (w.freedUse || jobs.any Job.usesSelf) := by
  induction jobs with
  | nil => intro w _ _; simp [World.runJobs]
  | cons job rest ih =>
    intro w deleted queue
    simp only [World.runJobs, World.step, queue, List.length_cons, List.any_cons,
      runJob_deleted (w := { w with queue := rest }) deleted]
    rw [ih (w := { w with queue := rest, freedUse := w.freedUse || job.usesSelf }) deleted rfl,
      Bool.or_assoc]

/-- Once a Timeout has deleted itself, no wait is left to expire, and running what is still
queued touches the freed object exactly when a successful wait handler or a posted `cancel()`
task is among it: nothing in `destroy_timer` or `cancel` removes them. -/
theorem deleted_queue_uses {callback : Bool} {events : List Event} {w : World}
    (ran : (World.construct callback).run events = some w) (deleted : w.obj = none) :
    w.waiting = false ∧
      (w.runJobs w.queue.length).freedUse = (w.freedUse || w.queue.any Job.usesSelf) := by
  have armed : Armed w :=
    run_keeps Armed (fun _ => True) (fun _ armed stepped => armed.step stepped)
      (fun _ _ => trivial) (by intro waiting; cases waiting) ran
  refine ⟨?_, runJobs_deleted w.queue deleted rfl⟩
  cases waiting : w.waiting
  · rfl
  · simpa [World.hasTimer, deleted] using armed waiting

/-- A main-thread `cancel()` while the expiry's handler is queued deletes the object, and the
handler then calls `timer_callback` on it. -/
theorem deleted_queue_uses_cancel_after_expiry :
    let w : World := ⟨none, false, [.waitHandler true], 0, 1, false, false⟩
    (World.construct true).run [.reset, .expire, .cancel true] = some w ∧
      (w.waiting = false ∧
        (w.runJobs w.queue.length).freedUse = (w.freedUse || w.queue.any Job.usesSelf)) ∧
      (w.runJobs w.queue.length).freedUse = true := by
  intro w
  have ran : (World.construct true).run [.reset, .expire, .cancel true] = some w := rfl
  exact ⟨ran, deleted_queue_uses ran rfl, rfl⟩

/-- Whether the object, if it exists, has a callback. -/
def World.hasCallback (w : World) : Bool :=
  match w.obj with
  | some t => t.callback
  | none => true

/-- The assertion has held so far, and the live object has a callback. -/
def Asserted (w : World) : Prop := w.assertFailed = false ∧ w.hasCallback = true

theorem Asserted.step {w w' : World} {e : Event} (kept : e ≠ .setCallback false)
    (asserted : Asserted w) (stepped : w.step e = some w') : Asserted w' := by
  unfold Asserted World.hasCallback at *
  rcases step_cases stepped with ⟨t, callback, obj, rfl, rfl⟩ | ⟨t, obj, rfl⟩ |
    ⟨t, onMain, obj, rfl⟩ | ⟨-, rfl⟩ | ⟨job, rest, -, rfl⟩
  · cases callback
    · exact absurd rfl kept
    · simpa using asserted.1
  · simp_all [World.reset, World.cancelTimer]
  · cases onMain <;> cases timer : t.timer <;> simp_all
  · exact asserted
  · rcases runJob_cases { w with queue := rest } job with ran | ⟨t, obj, ran⟩ | ⟨t, obj, ran⟩ |
      ⟨obj, ran⟩ <;> rw [ran]
    · exact asserted
    · simp_all
    · cases timer : t.timer <;> simp_all
    · exact asserted

/-- `~Timeout` asserts `m_callback_disabled`. `cancel()` sets the flag before it deletes, and
`timer_callback()` exchanges it whenever a callback is set, so a Timeout constructed with a
callback and never given an empty one is never deleted with the flag clear. -/
theorem destructor_asserts_of_callback {events : List Event} {w : World}
    (ran : (World.construct true).run events = some w)
    (callbacks : ∀ e ∈ events, e ≠ .setCallback false) : w.assertFailed = false :=
  (run_keeps Asserted (fun e => e ≠ .setCallback false)
    (fun kept asserted stepped => asserted.step kept stepped) callbacks
    (show Asserted (World.construct true) from ⟨rfl, rfl⟩) ran).1

/-- The expiry of a Timeout with a callback runs it and deletes the object with the flag set. -/
theorem destructor_asserts_after_expiry :
    let w : World := ⟨none, false, [], 1, 0, false, false⟩
    (World.construct true).run [.reset, .expire, .runJob] = some w ∧ w.assertFailed = false := by
  intro w
  have ran : (World.construct true).run [.reset, .expire, .runJob] = some w := rfl
  exact ⟨ran, destructor_asserts_of_callback ran (by decide)⟩

end Timeout

end Astron

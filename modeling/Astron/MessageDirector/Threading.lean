import Mathlib.Data.List.Perm.Basic

set_option autoImplicit false

/- Threaded routing in `MessageDirector` (src/messagedirector/MessageDirector.cpp) and its
shutdown. `route_datagram` pushes onto the lock-free FIFO `m_messages` and returns; each
`routing_thread` worker loops on `!stop_token.stop_requested() && !m_shutdown`, popping and
processing one message per turn or sleeping when the queue is empty; `shutdown_threading` sets
`m_shutdown`, requests every worker's stop, joins them by clearing `m_thread_pool`, and resets
`m_shutdown`; the destructor then drains what is left of `m_messages`, deleting each message
unprocessed. One step is one statement of one thread. `pushed`, `popped`, `processed` and
`released` are ghost histories. The cleanup timer, which `shutdown_threading` also cancels,
does not touch the queue and is left out. -/

namespace Astron.Threading

/-- Where a `routing_thread` worker stands in its loop. -/
inductive WorkerPc (α : Type) where
  | test  -- At the loop test
  | pop  -- Past the test, about to call `m_messages.pop(msg)`
  | processing (msg : α)  -- In `process_datagram` on a popped message
  | exited  -- Out of the loop
deriving DecidableEq, Repr

/-- The message a worker is processing, if any. -/
def WorkerPc.msg {α : Type} : WorkerPc α → Option α
  | .processing msg => some msg
  | _ => none

/-- Whether a worker has left its loop. -/
def WorkerPc.isExited {α : Type} : WorkerPc α → Bool
  | .exited => true
  | _ => false

/-- Where `shutdown_threading`, and the destructor after it, stand. -/
inductive ShutdownPc where
  | notCalled
  | flagged  -- `m_shutdown.store(true)`
  | stopRequested  -- Every `worker.request_stop()`
  | joined  -- `m_thread_pool.clear()` has joined every worker
  | returned  -- `m_shutdown.store(false)`; `shutdown_threading` has returned
  | drained  -- The destructor has drained `m_messages`
deriving DecidableEq, Repr

/-- The routing queue, the flags, the workers and the ghost histories. `pushedBefore` is how
many messages had been pushed when `shutdown_threading` was called. -/
structure Pool (α : Type) where
  messages : List α
  shutdown : Bool
  stopRequested : Bool
  workers : List (WorkerPc α)
  stage : ShutdownPc
  pushed : List α
  popped : List α
  processed : List α
  released : List α
  pushedBefore : Nat
deriving DecidableEq, Repr

/-- One statement of some thread. -/
inductive Event (α : Type) where
  | push (msg : α)  -- A `route_datagram` call pushes its message
  | test (worker : Nat)  -- A worker's loop test
  | pop (worker : Nat)  -- A worker's `m_messages.pop(msg)`, or its sleep when the queue is empty
  | process (worker : Nat)  -- A worker's `process_datagram` returns and the message is deleted
  | setShutdown
  | requestStop
  | join
  | resetShutdown
  | drain  -- The destructor's `while(m_messages.pop(msg)) delete msg;`
deriving DecidableEq, Repr

variable {α : Type}

/-- One statement; `none` when it cannot run. No `route_datagram` pushes once
`shutdown_threading` has returned. -/
def step (s : Pool α) : Event α → Option (Pool α)
  | .push msg =>
    if s.stage = .returned ∨ s.stage = .drained then none
    else some { s with messages := s.messages ++ [msg], pushed := s.pushed ++ [msg] }
  | .test i =>
    match s.workers[i]? with
    | some .test =>
      let next : WorkerPc α := if s.stopRequested || s.shutdown then .exited else .pop
      some { s with workers := s.workers.set i next }
    | _ => none
  | .pop i =>
    match s.workers[i]?, s.messages with
    | some .pop, msg :: rest =>
      some { s with messages := rest, popped := s.popped ++ [msg],
                    workers := s.workers.set i (.processing msg) }
    | some .pop, [] => some { s with workers := s.workers.set i .test }
    | _, _ => none
  | .process i =>
    match s.workers[i]? with
    | some (.processing msg) =>
      some { s with processed := s.processed ++ [msg], workers := s.workers.set i .test }
    | _ => none
  | .setShutdown =>
    if s.stage = .notCalled then
      some { s with shutdown := true, stage := .flagged, pushedBefore := s.pushed.length }
    else none
  | .requestStop =>
    if s.stage = .flagged then some { s with stopRequested := true, stage := .stopRequested }
    else none
  | .join =>
    if s.stage = .stopRequested ∧ s.workers.all WorkerPc.isExited then
      some { s with workers := [], stage := .joined }
    else none
  | .resetShutdown =>
    if s.stage = .joined then some { s with shutdown := false, stage := .returned } else none
  | .drain =>
    if s.stage = .returned then
      some { s with messages := [], released := s.released ++ s.messages, stage := .drained }
    else none

/-- After `init_network` has spawned `threads` workers. -/
def initial (threads : Nat) : Pool α :=
  ⟨[], false, false, List.replicate threads .test, .notCalled, [], [], [], [], 0⟩

/-- Statements run one after another. -/
def run (s : Pool α) : List (Event α) → Option (Pool α)
  | [] => some s
  | e :: events => (step s e).bind fun next => run next events

/-- The states some interleaving leads to. -/
inductive Reachable (threads : Nat) : Pool α → Prop
  | initial : Reachable threads (initial threads)
  | step {s s' : Pool α} (e : Event α) : Reachable threads s → step s e = some s' →
      Reachable threads s'

theorem Reachable.run {threads : Nat} {s s' : Pool α} {events : List (Event α)}
    (reach : Reachable threads s) (ran : run s events = some s') : Reachable threads s' := by
  induction events generalizing s with
  | nil => exact Option.some.inj ran ▸ reach
  | cons e events ih =>
    simp only [Threading.run, Option.bind_eq_some] at ran
    obtain ⟨next, stepped, rest⟩ := ran
    exact ih (.step e reach stepped) rest

/-- The messages the workers are processing. -/
def inFlight (workers : List (WorkerPc α)) : List α := workers.filterMap WorkerPc.msg

theorem inFlight_set {workers : List (WorkerPc α)} {i : Nat} {w : WorkerPc α}
    (at_i : workers[i]? = some w) (w' : WorkerPc α) :
    (inFlight (workers.set i w') ++ w.msg.toList).Perm (inFlight workers ++ w'.msg.toList) := by
  induction workers generalizing i with
  | nil => simp at at_i
  | cons v workers ih =>
    cases i with
    | zero =>
      simp only [List.getElem?_cons_zero, Option.some.injEq] at at_i
      subst at_i
      simp only [inFlight, List.set_cons_zero, List.filterMap_cons]
      rcases v.msg with _ | a <;> rcases w'.msg with _ | b <;>
        simp only [Option.toList_none, Option.toList_some, List.append_nil, List.cons_append]
      · exact .refl _
      · exact (List.perm_append_singleton b _).symm
      · exact List.perm_append_singleton a _
      · exact ((List.perm_append_singleton a _).cons b).trans
          ((List.Perm.swap a b _).trans ((List.perm_append_singleton b _).symm.cons a))
    | succ i =>
      simp only [List.getElem?_cons_succ] at at_i
      have := ih at_i
      simp only [inFlight] at this
      simp only [inFlight, List.set_cons_succ, List.filterMap_cons]
      cases v.msg <;> simp [this]

/-- What every reachable state satisfies: the queue is the pushed messages not yet popped or
released, in order; what was processed plus what is in flight is what was popped; and once
every worker has been joined, none is left. -/
structure Inv (s : Pool α) : Prop where
  fifo : s.popped ++ s.released ++ s.messages = s.pushed
  accounted : (s.processed ++ inFlight s.workers).Perm s.popped
  joined : s.stage = .joined ∨ s.stage = .returned ∨ s.stage = .drained → s.workers = []
  released : s.stage ≠ .drained → s.released = []

theorem Inv.initial (threads : Nat) : Inv (initial threads : Pool α) :=
  ⟨rfl, by simp [Threading.initial, inFlight, List.filterMap_replicate, WorkerPc.msg], nofun,
    fun _ => rfl⟩

theorem inFlight_set_idle {workers : List (WorkerPc α)} {i : Nat} {w : WorkerPc α}
    (at_i : workers[i]? = some w) (w' : WorkerPc α) (idle : w.msg = none) (idle' : w'.msg = none) :
    (inFlight (workers.set i w')).Perm (inFlight workers) := by
  simpa [idle, idle'] using inFlight_set at_i w'

theorem inFlight_of_all_exited {workers : List (WorkerPc α)}
    (exited : workers.all WorkerPc.isExited = true) : inFlight workers = [] := by
  induction workers with
  | nil => rfl
  | cons w workers ih =>
    simp only [List.all_cons, Bool.and_eq_true] at exited
    cases w <;> simp_all [inFlight, WorkerPc.isExited, WorkerPc.msg]

theorem Inv.step {s s' : Pool α} {e : Event α} (inv : Inv s) (stepped : step s e = some s') :
    Inv s' := by
  obtain ⟨fifo, accounted, joined, released⟩ := inv
  have busy {i : Nat} {w : WorkerPc α} (at_i : s.workers[i]? = some w) :
      ¬(s.stage = .joined ∨ s.stage = .returned ∨ s.stage = .drained) :=
    fun late => by simp [joined late] at at_i
  cases e with
  | push msg =>
    simp only [Threading.step] at stepped
    split_ifs at stepped
    cases stepped
    exact ⟨by rw [← fifo]; simp, accounted, joined, released⟩
  | test i =>
    simp only [Threading.step] at stepped
    split at stepped
    · rename_i at_i
      cases stepped
      have idle := inFlight_set_idle at_i
        (if s.stopRequested || s.shutdown then .exited else .pop) rfl (by split <;> rfl)
      exact ⟨fifo, (idle.append_left _).trans accounted, fun late => absurd late (busy at_i),
        released⟩
    · cases stepped
  | pop i =>
    simp only [Threading.step] at stepped
    split at stepped
    · rename_i msg rest at_i queue
      cases stepped
      have none := released (fun drained => busy at_i (.inr (.inr drained)))
      refine ⟨by simp [← fifo, queue, none], ?_, fun late => absurd late (busy at_i),
        released⟩
      have moved := inFlight_set at_i (.processing msg)
      simp only [WorkerPc.msg, Option.toList_none, Option.toList_some, List.append_nil] at moved
      dsimp only
      exact (moved.append_left _).trans
        (by rw [← List.append_assoc]; exact accounted.append_right _)
    · rename_i at_i _
      cases stepped
      exact ⟨fifo, ((inFlight_set_idle at_i .test rfl rfl).append_left _).trans accounted,
        fun late => absurd late (busy at_i), released⟩
    · cases stepped
  | process i =>
    simp only [Threading.step] at stepped
    split at stepped
    · rename_i msg at_i
      cases stepped
      have moved := inFlight_set at_i .test
      simp only [WorkerPc.msg, Option.toList_none, Option.toList_some, List.append_nil] at moved
      refine ⟨fifo, ?_, fun late => absurd late (busy at_i), released⟩
      dsimp only
      rw [List.append_assoc]
      exact ((List.perm_append_comm.trans moved).append_left _).trans accounted
    · cases stepped
  | setShutdown | requestStop =>
    simp only [Threading.step] at stepped
    split_ifs at stepped with stage
    cases stepped
    exact ⟨fifo, accounted, fun late => by simp at late, fun _ => released (by simp [stage])⟩
  | join =>
    simp only [Threading.step] at stepped
    split_ifs at stepped with stage
    cases stepped
    rw [inFlight_of_all_exited stage.2] at accounted
    exact ⟨fifo, by simpa [inFlight] using accounted, fun _ => rfl,
      fun _ => released (by simp [stage.1])⟩
  | resetShutdown =>
    simp only [Threading.step] at stepped
    split_ifs at stepped with stage
    cases stepped
    exact ⟨fifo, accounted, fun _ => joined (.inl stage), fun _ => released (by simp [stage])⟩
  | drain =>
    simp only [Threading.step] at stepped
    split_ifs at stepped with stage
    cases stepped
    exact ⟨by simp [← fifo], accounted, fun _ => joined (.inr (.inl stage)),
      fun h => absurd rfl h⟩

theorem Reachable.inv {threads : Nat} {s : Pool α} (reach : Reachable threads s) : Inv s := by
  induction reach with
  | initial => exact .initial threads
  | step _ _ stepped ih => exact ih.step stepped

/-- In every interleaving of producers, workers, `shutdown_threading` and the destructor's
drain: the queue holds, in push order, exactly the pushed messages that no worker has popped and
the drain has not released; the messages processed and those being processed are, up to order,
exactly those popped, so no message is processed twice; and once `shutdown_threading` has
returned, every pushed message has been processed exactly once, released by the drain, or is
still queued. -/
theorem routing_queue_accounted {threads : Nat} {s : Pool α} (reach : Reachable threads s) :
    s.popped ++ s.released ++ s.messages = s.pushed ∧
    (s.processed ++ inFlight s.workers).Perm s.popped ∧
    (s.stage = .returned ∨ s.stage = .drained →
      (s.processed ++ s.released ++ s.messages).Perm s.pushed) := by
  obtain ⟨fifo, accounted, joined, -⟩ := reach.inv
  refine ⟨fifo, accounted, fun late => ?_⟩
  rw [← fifo, List.append_assoc, List.append_assoc]
  have idle : inFlight s.workers = [] := by simp [joined (.inr late), inFlight]
  exact (by simpa [idle] using accounted : s.processed.Perm s.popped).append_right _

/-- Two workers; one message pushed and shutdown run to its end, then the destructor's drain. -/
theorem routing_queue_accounted_drained :
    ∃ s : Pool Nat, Reachable 2 s ∧ s.stage = .drained ∧
      (s.processed ++ s.released ++ s.messages).Perm s.pushed :=
  let reach := Reachable.initial.run (show run (initial 2) [.push 7, .test 0, .pop 0, .process 0,
    .setShutdown, .test 0, .test 1, .requestStop, .join, .resetShutdown, .drain] = some _ from rfl)
  ⟨_, reach, rfl, (routing_queue_accounted reach).2.2 (.inr rfl)⟩

/-- Message 7 is pushed before `shutdown_threading` is called. Both workers reach their loop
test after `m_shutdown` is set and leave the loop with 7 still queued; `shutdown_threading`
joins them and returns with 7 never processed, and the destructor's drain deletes it. -/
theorem shutdown_leaves_queued_unprocessed :
    ∃ s s' : Pool Nat, Reachable 2 s ∧ s.stage = .returned ∧ s.pushedBefore = 1 ∧
      s.pushed = [7] ∧ s.messages = [7] ∧ s.processed = [] ∧
      step s .drain = some s' ∧ s'.released = [7] ∧ s'.processed = [] :=
  ⟨_, _, Reachable.initial.run (show run (initial 2) [.push 7, .setShutdown, .test 0, .test 1,
    .requestStop, .join, .resetShutdown] = some _ from rfl), rfl, rfl, rfl, rfl, rfl, rfl, rfl,
    rfl⟩

end Astron.Threading

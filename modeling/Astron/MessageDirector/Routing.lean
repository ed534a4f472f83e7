import Mathlib.Data.List.Basic

set_option autoImplicit false

/- Non-threaded routing in `MessageDirector` (src/messagedirector/MessageDirector.cpp). With an
empty `m_thread_pool`, `route_datagram` pushes onto `m_messages` and, on the main thread, calls
`flush_queue`, which pops and processes every queued datagram unless `m_main_is_routing` says a
flush is already running further down the stack. A handler that `process_datagram` calls may
call `route_datagram` again. The main thread is an abstract machine whose continuation is the
stack of calls in progress, innermost first; one step is one piece of main-thread code that no
other main-thread code can interleave with. -/

namespace Astron.Routing

/-- A call in progress on the main thread. -/
inductive Frame (α : Type) where
  | flush                          -- the `while(m_messages.pop(msg))` loop of `flush_queue`
  | fanout (msg : α) (left : Nat)  -- the fanout loop of `process_datagram(msg)`
  | handler                        -- a `handle_datagram`, or a `post_remove` it runs
deriving DecidableEq, Repr

def Frame.isFanout {α : Type} : Frame α → Bool
  | .fanout _ _ => true
  | _ => false

/-- The routing state of the main thread. `routed` and `processed` are ghost histories: every
datagram passed to `route_datagram` and to `process_datagram`, in call order. -/
structure MainThread (α : Type) where
  messages : List α
  mainIsRouting : Bool
  stack : List (Frame α)
  routed : List α
  processed : List α
deriving DecidableEq, Repr

/-- One piece of main-thread code. `pop` is the loop test of `flush_queue`; when it pops a
datagram, `process_datagram` snapshots `targets` participants, and `none` is a truncated
header, which returns at once. -/
inductive Event (α : Type) where
  | route (msg : α)
  | pop (targets : Option Nat)
  | deliver        -- `handle_datagram` on the next target
  | skip           -- the next target is terminated
  | handlerReturn
  | handlerRaise   -- `DatagramIteratorEOF`, caught in `process_datagram`
  | finish         -- the upstream forward, `process_terminates`, and the return
deriving DecidableEq, Repr

/-- The datagram a `route_datagram` call passes. -/
def Event.routedMsg {α : Type} : Event α → Option α
  | .route msg => some msg
  | _ => none

variable {α : Type}

/-- The main thread's steps; `none` when the event cannot happen in this state. -/
def step (s : MainThread α) : Event α → Option (MainThread α)
  | .route msg =>
    match s.stack with
    | [] | .handler :: _ =>
      let pushed := { s with messages := s.messages ++ [msg], routed := s.routed ++ [msg] }
      if s.mainIsRouting then some pushed
      else some { pushed with mainIsRouting := true, stack := .flush :: s.stack }
    | _ => none
  | .pop targets =>
    match s.stack, s.messages with
    | .flush :: rest, [] => some { s with mainIsRouting := false, stack := rest }
    | .flush :: _, msg :: queue =>
      let popped := { s with messages := queue, processed := s.processed ++ [msg] }
      match targets with
      | none => some popped
      | some left => some { popped with stack := .fanout msg left :: s.stack }
    | _, _ => none
  | .deliver =>
    match s.stack with
    | .fanout msg (left + 1) :: rest => some { s with stack := .handler :: .fanout msg left :: rest }
    | _ => none
  | .skip =>
    match s.stack with
    | .fanout msg (left + 1) :: rest => some { s with stack := .fanout msg left :: rest }
    | _ => none
  | .handlerReturn =>
    match s.stack with
    | .handler :: rest => some { s with stack := rest }
    | _ => none
  | .handlerRaise =>
    match s.stack with
    | .handler :: .fanout _ _ :: rest => some { s with stack := rest }
    | _ => none
  | .finish =>
    match s.stack with
    | .fanout _ 0 :: rest => some { s with stack := rest }
    | _ => none

/-- The main thread before any datagram is routed. -/
def initial : MainThread α := ⟨[], false, [], [], []⟩

/-- The events of a list, in order, from `s`; `none` as soon as one cannot happen. -/
def run (s : MainThread α) : List (Event α) → Option (MainThread α)
  | [] => some s
  | e :: es => (step s e).bind (run · es)

theorem run_cons {s s' : MainThread α} {e : Event α} {es : List (Event α)}
    (stepped : step s e = some s') : run s (e :: es) = run s' es := by
  simp [run, stepped]

theorem run_append (s : MainThread α) (es es' : List (Event α)) :
    run s (es ++ es') = (run s es).bind (run · es') := by
  induction es generalizing s with
  | nil => rfl
  | cons e es ih => cases h : step s e <;> simp [run, h, ih]

theorem step_routed {s s' : MainThread α} {e : Event α} (stepped : step s e = some s') :
    s'.routed = s.routed ++ e.routedMsg.toList := by
  unfold step at stepped
  split at stepped <;> (try split at stepped) <;> (try split at stepped) <;> cases stepped <;>
    simp [Event.routedMsg]

theorem run_routed {s s' : MainThread α} {es : List (Event α)} (ran : run s es = some s') :
    s'.routed = s.routed ++ es.filterMap Event.routedMsg := by
  induction es generalizing s with
  | nil => cases ran; simp
  | cons e es ih =>
    obtain ⟨t, stepped, rest⟩ := Option.bind_eq_some.mp (show (step s e).bind _ = _ from ran)
    cases e <;> simp [ih rest, step_routed stepped, Event.routedMsg]

theorem step_route_enabled {s : MainThread α} (msg : α)
    (caller : s.stack = [] ∨ s.stack.head? = some .handler) :
    ∃ s', step s (.route msg) = some s' := by
  obtain ⟨messages, b, stack, routed, processed⟩ := s
  rcases caller with rfl | caller
  · cases b <;> simp [step]
  · obtain ⟨_ | _ | _, rest⟩ | _ := stack <;> cases caller
    cases b <;> simp [step]

/-- The stacks the main thread can have: idle, in `flush_queue`, in `process_datagram` called
from it, or in a handler called from that. -/
inductive Shape : List (Frame α) → Prop
  | idle : Shape []
  | flushing : Shape [.flush]
  | processing (msg : α) (left : Nat) : Shape [.fanout msg left, .flush]
  | handling (msg : α) (left : Nat) : Shape [.handler, .fanout msg left, .flush]

/-- What every state a run reaches satisfies. -/
structure Inv (s : MainThread α) : Prop where
  shape : Shape s.stack
  routing : s.mainIsRouting = !s.stack.isEmpty
  fifo : s.processed ++ s.messages = s.routed
  idle : s.stack = [] → s.messages = []

theorem inv_initial : Inv (initial : MainThread α) :=
  ⟨.idle, rfl, rfl, fun _ => rfl⟩

theorem inv_step {s s' : MainThread α} {e : Event α} (inv : Inv s)
    (stepped : step s e = some s') : Inv s' := by
  obtain ⟨messages, routing, stack, routed, processed⟩ := s
  obtain ⟨shape, routingFlag, fifo, idle⟩ := inv
  dsimp only at shape routingFlag fifo idle
  subst routingFlag
  cases shape with
  | idle =>
    cases e <;> simp [step] at stepped
    subst stepped
    exact ⟨.flushing, rfl, by simp [← fifo, idle rfl], nofun⟩
  | flushing =>
    cases e <;> simp [step] at stepped
    rename_i targets
    rcases messages with _ | ⟨msg, queue⟩
    · simp only [Option.some.injEq] at stepped
      subst stepped
      exact ⟨.idle, rfl, fifo, fun _ => rfl⟩
    · cases targets <;> simp only [Option.some.injEq] at stepped <;> subst stepped
      · exact ⟨.flushing, rfl, by simpa using fifo, nofun⟩
      · exact ⟨.processing _ _, rfl, by simpa using fifo, nofun⟩
  | processing msg left =>
    cases e <;> simp [step] at stepped <;> cases left <;>
      simp only [Option.some.injEq, reduceCtorEq] at stepped <;> subst stepped
    · exact ⟨.handling _ _, rfl, fifo, nofun⟩
    · exact ⟨.processing _ _, rfl, fifo, nofun⟩
    · exact ⟨.flushing, rfl, fifo, nofun⟩
  | handling msg left =>
    cases e <;> simp [step] at stepped <;> subst stepped
    · exact ⟨.handling _ _, rfl, by simp [← fifo], nofun⟩
    · exact ⟨.processing _ _, rfl, fifo, nofun⟩
    · exact ⟨.flushing, rfl, fifo, nofun⟩

theorem run_inv {s s' : MainThread α} {es : List (Event α)} (inv : Inv s)
    (ran : run s es = some s') : Inv s' := by
  induction es generalizing s with
  | nil => cases ran; exact inv
  | cons e es ih =>
    obtain ⟨t, stepped, ran⟩ := Option.bind_eq_some.mp (show (step s e).bind _ = _ from ran)
    exact ih (inv_step inv stepped) ran

theorem Shape.fanout_count {stack : List (Frame α)} (shape : Shape stack) :
    (stack.filter Frame.isFanout).length ≤ 1 := by
  cases shape <;> simp [Frame.isFanout]

theorem finish_leaves_no_fanout {s s' : MainThread α} (inv : Inv s)
    (stepped : step s .finish = some s') : ∀ f ∈ s'.stack, f.isFanout = false := by
  obtain ⟨messages, routing, stack, routed, processed⟩ := s
  obtain ⟨shape, -, -, -⟩ := inv
  dsimp only at shape
  cases shape <;> simp [step] at stepped
  rename_i left
  cases left <;> simp only [Option.some.injEq, reduceCtorEq] at stepped
  subst stepped
  simp [Frame.isFanout]

theorem run_pops (messages routed processed : List α) (b : Bool) :
    run ⟨messages, b, [.flush], routed, processed⟩
        (List.replicate (messages.length + 1) (.pop none)) =
      some ⟨[], false, [], routed, processed ++ messages⟩ := by
  induction messages generalizing processed with
  | nil => simp [run, step]
  | cons msg queue ih =>
    have stepped : step ⟨msg :: queue, b, [.flush], routed, processed⟩ (.pop none) =
        some ⟨queue, b, [.flush], routed, processed ++ [msg]⟩ := rfl
    rw [List.length_cons, List.replicate_succ, run_cons stepped, ih]
    simp

theorem run_skips (msg : α) (left : Nat) (s : MainThread α) (rest : List (Frame α))
    (top : s.stack = .fanout msg left :: rest) :
    run s (List.replicate left .skip) = some { s with stack := .fanout msg 0 :: rest } := by
  induction left generalizing s with
  | zero => cases s; cases top; rfl
  | succ left ih =>
    rw [List.replicate_succ, run_cons (by simp [step, top]; rfl), ih _ rfl]

theorem Inv.drains {s : MainThread α} (inv : Inv s) :
    ∃ more s', (∀ e ∈ more, Event.routedMsg e = none) ∧ run s more = some s' ∧
      s'.stack = [] ∧ s'.processed = s.routed := by
  obtain ⟨messages, b, stack, routed, processed⟩ := s
  obtain ⟨shape, -, fifo, idle⟩ := inv
  dsimp only at shape fifo idle
  let pops := List.replicate (messages.length + 1) (Event.pop (α := α) none)
  have popsRouteNothing : ∀ e ∈ pops, e.routedMsg = none := by
    simp [pops, List.mem_replicate, Event.routedMsg]
  have flushed := run_pops messages routed processed b
  have finished (msg : α) (left : Nat) :
      run ⟨messages, b, [.fanout msg left, .flush], routed, processed⟩
        (List.replicate left .skip ++ .finish :: pops) =
        some ⟨[], false, [], routed, processed ++ messages⟩ := by
    rw [run_append, run_skips msg left _ _ rfl]
    exact flushed
  cases shape with
  | idle => exact ⟨[], _, by simp, rfl, rfl, by simpa [idle rfl] using fifo⟩
  | flushing => exact ⟨_, _, popsRouteNothing, flushed, rfl, fifo⟩
  | processing msg left =>
    refine ⟨_, _, ?_, finished msg left, rfl, fifo⟩
    simpa [List.mem_replicate, Event.routedMsg, or_imp, forall_and] using popsRouteNothing
  | handling msg left =>
    refine ⟨.handlerReturn :: _, _, ?_, finished msg left, rfl, fifo⟩
    simpa [List.mem_replicate, Event.routedMsg, or_imp, forall_and] using popsRouteNothing

/-- For every run of the non-threaded main thread: `routed` is the datagrams of its
`route_datagram` calls, in order; those processed, then those still queued, are exactly these;
once the outermost `route_datagram` has returned, everything routed has been processed; at most
one `process_datagram` call is in progress; `process_terminates` runs only when no fanout loop is
in progress; `route_datagram` can be called from outside any flush and from a handler; and
without further routing the outermost call returns with everything routed processed. -/
theorem route_datagram_in_order {events : List (Event α)} {s : MainThread α}
    (ran : run initial events = some s) :
    s.routed = events.filterMap Event.routedMsg ∧
      s.processed ++ s.messages = s.routed ∧
      (s.stack = [] → s.processed = s.routed) ∧
      (s.stack.filter Frame.isFanout).length ≤ 1 ∧
      (∀ s', step s .finish = some s' → ∀ f ∈ s'.stack, f.isFanout = false) ∧
      (∀ msg, s.stack = [] ∨ s.stack.head? = some .handler →
        ∃ s', step s (.route msg) = some s') ∧
      ∃ more s', (∀ e ∈ more, Event.routedMsg e = none) ∧ run s more = some s' ∧
        s'.stack = [] ∧ s'.processed = s.routed := by
  have inv := run_inv inv_initial ran
  refine ⟨by simpa [initial] using run_routed ran, inv.fifo, fun idle => ?_, inv.shape.fanout_count,
    fun _ stepped => finish_leaves_no_fanout inv stepped, step_route_enabled, inv.drains⟩
  simpa [inv.idle idle] using inv.fifo

/-- A handler routes datagram 2 while datagram 1 is being processed: 2 waits in the queue and is
processed after 1, and the outermost `route_datagram` returns with both processed. -/
theorem route_datagram_reentrant_run :
    ∃ s : MainThread Nat, run initial [.route 1, .pop (some 1), .deliver, .route 2,
        .handlerReturn, .finish, .pop (some 0), .finish, .pop none] = some s ∧
      s.stack = [] ∧ s.processed = [1, 2] :=
  let ran : run initial [.route 1, .pop (some 1), .deliver, .route 2, .handlerReturn, .finish,
      .pop (some 0), .finish, .pop none] = some ⟨[], false, [], [1, 2], [1, 2]⟩ := rfl
  ⟨_, ran, rfl, ((route_datagram_in_order ran).2.2.1 rfl).trans (route_datagram_in_order ran).1⟩

end Astron.Routing

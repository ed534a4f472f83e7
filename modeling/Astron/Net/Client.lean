import Astron.Net.Framing

set_option autoImplicit false

/- The send side of `NetworkClient` (src/net/NetworkClient.cpp, src/net/NetworkClient.h) with
the Boost.Asio event loop it runs on. The client's fields are those the send path reads and
writes; the loop holds the tasks posted to the main thread, the waits on `m_async_timer`, and
the `async_write`s whose completion handler has not run yet. One step is one public call made
under `m_mutex` or one handler the loop dispatches; the unlocked window inside `shutdown`, around
`enqueue_task`, is taken as part of the step that calls it. `m_total_queue_size` is a
`uint64_t` counting bytes that `m_send_queue` holds in memory, so it never wraps and is a `Nat`
here. -/

namespace Astron.NetworkClient

open Astron.Framing (dgsizeBytes sendBuffer)

/-- The `boost::system::error_code`s the send path passes around. -/
inductive ErrorCode where
  | eof
  | noBufferSpace
  | protocolError
  | timedOut
  | other (code : Nat)
deriving DecidableEq, Repr

/-- A wait on the timer, in Boost.Asio's terms: still waiting, or its handler queued with
success because the deadline passed first, or with `operation_aborted` because `cancel()` or
`expires_after()` came first. A queued handler keeps its result whatever happens afterwards. -/
inductive WaitStatus where
  | waiting
  | expired
  | aborted
deriving DecidableEq, Repr

/-- A task posted to the main thread with `TaskQueue::enqueue_task`. -/
inductive Task where
  | flushSendQueue
  | close  -- The task of `shutdown`: cancel the timer, then shut the socket down and close it
deriving DecidableEq, Repr

/-- A `NetworkClient` after `initialize`, and its event loop. `socket` is
`m_socket != nullptr`, which `is_connected` tests and which holds exactly when `m_async_timer`
is set. `assertFailed` records whether an `assert` of `flush_send_queue` has failed. -/
structure Client where
  isSending : Bool
  sendBuf : Option Bytes
  socket : Bool
  sendQueue : List Bytes
  totalQueueSize : Nat
  maxQueueSize : Nat
  writeTimeout : Nat
  disconnectHandled : Bool
  localDisconnect : Bool
  disconnectError : ErrorCode
  assertFailed : Bool
  tasks : List Task  -- Posted tasks, oldest first
  waits : List (Nat × WaitStatus)
  writes : List Nat  -- The `async_write`s whose completion handler has not run yet
  nextWrite : Nat  -- The number the next `async_write` gets
  disconnects : List ErrorCode
deriving DecidableEq, Repr

/-- A client just after `initialize`, with `set_write_buffer(maxQueueSize)` and
`set_write_timeout(writeTimeout)`. -/
def initial (maxQueueSize writeTimeout : Nat) : Client :=
  ⟨false, none, true, [], 0, maxQueueSize, writeTimeout, false, false, .eof, false, [], [], [],
    0, []⟩

/-- `cancel()` or `expires_after()` on the timer: the waits still waiting are aborted. -/
def cancelWaits (waits : List (Nat × WaitStatus)) : List (Nat × WaitStatus) :=
  waits.map fun wait => (wait.1, if wait.2 = .waiting then .aborted else wait.2)

/-- The deadline passes: the waits still waiting have their handler queued with success. -/
def expireWaits (waits : List (Nat × WaitStatus)) : List (Nat × WaitStatus) :=
  waits.map fun wait => (wait.1, if wait.2 = .waiting then .expired else wait.2)

/-- `NetworkClient::shutdown`: post the close task and drop the socket and the timer. -/
def shutdown (c : Client) : Client :=
  if c.socket then { c with tasks := c.tasks ++ [.close], socket := false } else c

/-- The bytes of the queued datagrams, which `m_total_queue_size` counts. -/
def queuedBytes : List Bytes → Nat
  | [] => 0
  | dg :: queue => dg.length + queuedBytes queue

@[simp] theorem queuedBytes_append (queue : List Bytes) (dg : Bytes) :
    queuedBytes (queue ++ [dg]) = queuedBytes queue + dg.length := by
  induction queue with
  | nil => simp [queuedBytes]
  | cons d queue ih => simp [queuedBytes, ih, Nat.add_assoc]

/-- The loop of `flush_send_queue` that computes `buffer_size`: `sizeof(dgsize_t) + dg->size()`
for each queued datagram. -/
def bufferSize : List Bytes → Nat
  | [] => 0
  | dg :: queue => 2 + dg.length + bufferSize queue

/-- The serialising loop of `flush_send_queue`: the bytes it copies into `m_send_buf` and
`m_total_queue_size` after it subtracts each datagram's size. -/
def serialise (total : Nat) : List Bytes → Bytes × Nat
  | [] => ([], total)
  | dg :: queue =>
    let rest := serialise (total - dg.length) queue
    (dgsizeBytes dg.length ++ dg ++ rest.1, rest.2)

/-- `NetworkClient::flush_send_queue`: serialise the whole queue into one buffer, arm the timer
for this write when a write timeout is set, and start the `async_write`. -/
def flushSendQueue (c : Client) : Client :=
  if !c.socket || c.isSending then c
  else if c.sendQueue.isEmpty then { c with assertFailed := c.assertFailed || c.totalQueueSize != 0 }
  else
    let serialised := serialise c.totalQueueSize c.sendQueue
    { c with
      sendBuf := some serialised.1
      totalQueueSize := serialised.2
      sendQueue := []
      assertFailed := c.assertFailed || serialised.1.length != bufferSize c.sendQueue ||
        serialised.2 != 0
      waits := if c.writeTimeout > 0 then cancelWaits c.waits ++ [(c.nextWrite, .waiting)]
        else c.waits
      isSending := true
      writes := c.writes ++ [c.nextWrite]
      nextWrite := c.nextWrite + 1 }

/-- `flush_send_queue` on the main thread, or posted to it from another thread. -/
def flushOrPost (c : Client) (onMain : Bool) : Client :=
  if onMain then flushSendQueue c else { c with tasks := c.tasks ++ [.flushSendQueue] }

/-- `NetworkClient::disconnect(ec)`, called on the main thread or not. -/
def disconnect (c : Client) (ec : ErrorCode) (onMain : Bool) : Client :=
  if c.localDisconnect || c.disconnectHandled then c
  else
    let c := { c with localDisconnect := true, disconnectError := ec }
    if !c.isSending && c.totalQueueSize == 0 then shutdown c else flushOrPost c onMain

/-- `m_send_queue.push_back(dg)` and `m_total_queue_size += dg->size()`. -/
def enqueue (c : Client) (dg : Bytes) : Client :=
  { c with sendQueue := c.sendQueue ++ [dg], totalQueueSize := c.totalQueueSize + dg.length }

/-- `NetworkClient::send_datagram(dg)`, called on the main thread or not. -/
def sendDatagram (c : Client) (dg : Bytes) (onMain : Bool) : Client :=
  if !c.socket then c
  else
    let c := enqueue c dg
    if c.totalQueueSize > c.maxQueueSize && c.maxQueueSize != 0 then
      disconnect c .noBufferSpace onMain
    else flushOrPost c onMain

/-- `NetworkClient::handle_disconnect(ec)`: shut down and tell the handler, once. -/
def handleDisconnect (c : Client) (ec : ErrorCode) : Client :=
  if c.disconnectHandled then c
  else
    let c := shutdown { c with disconnectHandled := true }
    { c with disconnects := c.disconnects ++ [if c.localDisconnect then c.disconnectError else ec] }

/-- `NetworkClient::send_finished`, the handler of a successful `async_write`. -/
def sendFinished (c : Client) : Client :=
  if !c.isSending then c
  else
    let c := { c with isSending := false, sendBuf := none }
    if !c.socket then c
    else
      let c := { c with waits := cancelWaits c.waits }
      if c.localDisconnect && c.totalQueueSize == 0 then shutdown c else flushSendQueue c

/-- `NetworkClient::send_expired`, run by a timer handler that got success. -/
def sendExpired (c : Client) : Client :=
  if !c.isSending then c
  else
    disconnect { c with isSending := false, sendBuf := none, totalQueueSize := 0, sendQueue := [] }
      .timedOut true

/-- What can happen to a client next. -/
inductive Event where
  | sendDatagram (dg : Bytes) (onMain : Bool)
  | disconnect (ec : ErrorCode) (onMain : Bool)
  | readError (ec : ErrorCode)  -- The read handler gets an error and calls `handle_disconnect(ec)`
  | writeDone (write : Nat) (result : Option ErrorCode)
  | timerExpires  -- The timer's deadline passes
  | timerHandler (write : Nat)  -- The handler of the wait armed for write `write` runs
  | runTask  -- The oldest posted task runs on the main thread
deriving DecidableEq, Repr

/-- One step of the client and its event loop; `none` when the event cannot happen. -/
def step (c : Client) : Event → Option Client
  | .sendDatagram dg onMain => some (sendDatagram c dg onMain)
  | .disconnect ec onMain => some (disconnect c ec onMain)
  | .readError ec => some (handleDisconnect c ec)
  | .writeDone write result =>
    if write ∈ c.writes then
      let c := { c with writes := c.writes.erase write }
      some (match result with
        | none => sendFinished c
        | some ec => handleDisconnect c ec)
    else none
  | .timerExpires => some { c with waits := expireWaits c.waits }
  | .timerHandler write =>
    match c.waits.lookup write with
    | some .expired => some (sendExpired { c with waits := c.waits.filter (·.1 != write) })
    | some .aborted => some { c with waits := c.waits.filter (·.1 != write) }
    | _ => none
  | .runTask =>
    match c.tasks with
    | [] => none
    | .flushSendQueue :: rest => some (flushSendQueue { c with tasks := rest })
    | .close :: rest => some { c with tasks := rest, waits := cancelWaits c.waits }

/-- Run events in order from a state. -/
def run (c : Client) : List Event → Option Client
  | [] => some c
  | e :: events => (step c e).bind fun next => run next events

/-- The states some sequence of events leads to from a freshly initialised client. -/
inductive Reachable (maxQueueSize writeTimeout : Nat) : Client → Prop
  | initial : Reachable maxQueueSize writeTimeout (initial maxQueueSize writeTimeout)
  | step {c c' : Client} (e : Event) : Reachable maxQueueSize writeTimeout c → step c e = some c' →
      Reachable maxQueueSize writeTimeout c'

theorem Reachable.run {maxQueueSize writeTimeout : Nat} {c c' : Client} {events : List Event}
    (reach : Reachable maxQueueSize writeTimeout c) (ran : run c events = some c') :
    Reachable maxQueueSize writeTimeout c' := by
  induction events generalizing c with
  | nil => exact Option.some.inj ran ▸ reach
  | cons e events ih =>
    simp only [NetworkClient.run, Option.bind_eq_some] at ran
    obtain ⟨next, stepped, rest⟩ := ran
    exact ih (reach.step e stepped) rest

/-- With a byte limit of 1 and a write timeout: a second datagram overflows the queue while the
first write is out, so `disconnect(kErrNoBufs)` sets `m_local_disconnect`; then the timeout of
the first write fires. `send_expired` drops the queue, but its `disconnect(kErrTimedOut)`
returns at once, so the socket stays up with nothing sending and nothing queued. The next
`send_datagram` starts a second `async_write` while the first is still outstanding. -/
theorem sendExpired_after_local_disconnect :
    ∃ c₁ c₂, Reachable 1 1 c₁ ∧ c₁.localDisconnect = true ∧ c₁.isSending = false ∧
      c₁.totalQueueSize = 0 ∧ c₁.socket = true ∧
      Reachable 1 1 c₂ ∧ c₂.writes = [0, 1] :=
  ⟨_, _, Reachable.initial.run (show run (initial 1 1) [.sendDatagram [0] true,
      .sendDatagram [0, 0] true, .timerExpires, .timerHandler 0] = some _ from rfl),
    rfl, rfl, rfl, rfl,
    Reachable.initial.run (show run (initial 1 1) [.sendDatagram [0] true,
      .sendDatagram [0, 0] true, .timerExpires, .timerHandler 0, .sendDatagram [0] true] =
        some _ from rfl), rfl⟩

/-- The completion of write 0 and the expiry of its timer are both queued, and the completion
runs first: `send_finished` cancels the timer, too late, and starts write 1 for the datagram
queued meanwhile. The timer handler armed for write 0 then gets success and `send_expired`
drops write 1's data and disconnects with `timed_out`, though write 0 is no longer out. -/
theorem sendExpired_aborts_later_write :
    ∃ c c', Reachable 0 1 c ∧ c.writes = [1] ∧ c.isSending = true ∧
      c.waits.lookup 0 = some .expired ∧ step c (.timerHandler 0) = some c' ∧
      c'.localDisconnect = true ∧ c'.disconnectError = .timedOut ∧ c'.socket = false ∧
      c'.writes = [1] :=
  ⟨_, _, Reachable.initial.run (show run (initial 0 1) [.sendDatagram [0] true,
      .sendDatagram [1] true, .timerExpires, .writeDone 0 none] = some _ from rfl),
    rfl, rfl, rfl, rfl, rfl, rfl, rfl, rfl⟩

theorem serialise_eq (total : Nat) (queue : List Bytes) :
    serialise total queue = (sendBuffer queue, total - queuedBytes queue) := by
  induction queue generalizing total with
  | nil => rfl
  | cons dg queue ih => simp only [serialise, ih, Framing.sendBuffer_cons, queuedBytes, Nat.sub_sub]

/-- The part of the invariant that `shutdown` needs from the state before it. -/
structure BaseInv (c : Client) : Prop where
  noTimeout : c.writeTimeout = 0
  noWaits : c.waits = []
  total : c.totalQueueSize = queuedBytes c.sendQueue
  single : c.writes.length ≤ 1
  sending : c.writes ≠ [] → c.isSending = true

/-- What every state reachable without a write timeout satisfies. -/
structure SendInv (c : Client) extends BaseInv c : Prop where
  shut : c.localDisconnect = true → c.isSending = false → c.totalQueueSize = 0 →
    c.socket = false
  handled : c.disconnectHandled = true → c.socket = false

theorem BaseInv.shutdown {c : Client} (base : BaseInv c) : SendInv (shutdown c) := by
  have kept : BaseInv { c with tasks := c.tasks ++ [.close], socket := false } :=
    ⟨base.noTimeout, base.noWaits, base.total, base.single, base.sending⟩
  unfold NetworkClient.shutdown
  split
  · exact ⟨kept, fun _ _ _ => rfl, fun _ => rfl⟩
  · rename_i down
    exact ⟨base, fun _ _ _ => eq_false_of_ne_true down, fun _ => eq_false_of_ne_true down⟩

theorem SendInv.flushSendQueue {c : Client} (inv : SendInv c) : SendInv (flushSendQueue c) := by
  unfold NetworkClient.flushSendQueue
  split_ifs with blocked empty timeout
  · exact inv
  · exact ⟨⟨inv.noTimeout, inv.noWaits, inv.total, inv.single, inv.sending⟩, inv.shut,
      inv.handled⟩
  · exact absurd inv.noTimeout (Nat.pos_iff_ne_zero.mp timeout)
  · have idle : c.writes = [] := by
      by_contra busy
      simp [inv.sending busy] at blocked
    refine ⟨⟨inv.noTimeout, inv.noWaits, ?_, by simp [idle], fun _ => rfl⟩,
      fun _ sending => absurd sending (by simp), inv.handled⟩
    simp [serialise_eq, inv.total, queuedBytes]

theorem SendInv.post {c : Client} (inv : SendInv c) :
    SendInv { c with tasks := c.tasks ++ [.flushSendQueue] } :=
  ⟨⟨inv.noTimeout, inv.noWaits, inv.total, inv.single, inv.sending⟩, inv.shut, inv.handled⟩

theorem SendInv.flushOrPost {c : Client} (inv : SendInv c) (onMain : Bool) :
    SendInv (flushOrPost c onMain) := by
  unfold NetworkClient.flushOrPost
  split
  · exact inv.flushSendQueue
  · exact inv.post

theorem SendInv.disconnect {c : Client} (inv : SendInv c) (ec : ErrorCode) (onMain : Bool) :
    SendInv (disconnect c ec onMain) := by
  unfold NetworkClient.disconnect
  dsimp only
  split_ifs with done idle
  · exact inv
  · exact BaseInv.shutdown ⟨inv.noTimeout, inv.noWaits, inv.total, inv.single, inv.sending⟩
  · apply SendInv.flushOrPost
    refine ⟨⟨inv.noTimeout, inv.noWaits, inv.total, inv.single, inv.sending⟩, ?_,
      inv.handled⟩
    intro _ sending empty
    simp only at sending empty
    simp [sending, empty] at idle

theorem SendInv.enqueue {c : Client} (inv : SendInv c) (up : c.socket = true) (dg : Bytes) :
    SendInv (enqueue c dg) := by
  refine ⟨⟨inv.noTimeout, inv.noWaits, by simp [NetworkClient.enqueue, inv.total], inv.single,
    inv.sending⟩, fun isLocal sending empty => ?_, inv.handled⟩
  have gone := inv.shut isLocal sending (by simp only [NetworkClient.enqueue] at empty; omega)
  simp [gone] at up

theorem SendInv.sendDatagram {c : Client} (inv : SendInv c) (dg : Bytes) (onMain : Bool) :
    SendInv (sendDatagram c dg onMain) := by
  unfold NetworkClient.sendDatagram
  dsimp only
  split_ifs with down
  · exact inv
  · exact (inv.enqueue (by simpa using down) dg).disconnect _ _
  · exact (inv.enqueue (by simpa using down) dg).flushOrPost _

theorem SendInv.handleDisconnect {c : Client} (inv : SendInv c) (ec : ErrorCode) :
    SendInv (handleDisconnect c ec) := by
  unfold NetworkClient.handleDisconnect
  split
  · exact inv
  · have down := BaseInv.shutdown (c := { c with disconnectHandled := true })
      ⟨inv.noTimeout, inv.noWaits, inv.total, inv.single, inv.sending⟩
    exact ⟨⟨down.noTimeout, down.noWaits, down.total, down.single, down.sending⟩, down.shut,
      down.handled⟩

theorem SendInv.complete {c : Client} (inv : SendInv c) {write : Nat} (out : write ∈ c.writes) :
    SendInv { c with writes := c.writes.erase write } ∧ c.writes.erase write = [] := by
  have only : c.writes = [write] := by
    match writes : c.writes, inv.single with
    | [w], _ => rw [writes, List.mem_singleton] at out; rw [out]
    | [], _ => rw [writes] at out; cases out
    | _ :: _ :: _, single => simp at single
  have none : c.writes.erase write = [] := by simp [only]
  exact ⟨⟨⟨inv.noTimeout, inv.noWaits, inv.total, by simp [none], fun busy => absurd none busy⟩,
    inv.shut, inv.handled⟩, none⟩

theorem SendInv.sendFinished {c : Client} (inv : SendInv c) (idle : c.writes = []) :
    SendInv (sendFinished c) := by
  have base : BaseInv { c with isSending := false, sendBuf := none } :=
    ⟨inv.noTimeout, inv.noWaits, inv.total, by simp [idle], fun busy => absurd idle busy⟩
  unfold NetworkClient.sendFinished
  dsimp only
  split_ifs with idleSend down finish
  · exact inv
  · exact ⟨base, fun _ _ _ => by simpa using down, fun _ => by simpa using down⟩
  · exact BaseInv.shutdown ⟨inv.noTimeout, by simp [cancelWaits, inv.noWaits], inv.total,
      by simp [idle], fun busy => absurd idle busy⟩
  · apply SendInv.flushSendQueue
    refine ⟨⟨inv.noTimeout, by simp [cancelWaits, inv.noWaits], inv.total, by simp [idle],
      fun busy => absurd idle busy⟩, fun isLocal _ empty => ?_, inv.handled⟩
    simp only at isLocal empty
    simp [isLocal, empty] at finish

theorem SendInv.step {c c' : Client} (inv : SendInv c) {e : Event}
    (stepped : step c e = some c') : SendInv c' := by
  cases e with
  | sendDatagram dg onMain => exact Option.some.inj stepped ▸ inv.sendDatagram dg onMain
  | disconnect ec onMain => exact Option.some.inj stepped ▸ inv.disconnect ec onMain
  | readError ec => exact Option.some.inj stepped ▸ inv.handleDisconnect ec
  | writeDone write result =>
    simp only [NetworkClient.step] at stepped
    split_ifs at stepped with out
    obtain ⟨erased, none⟩ := inv.complete out
    cases result <;> simp only [Option.some.injEq] at stepped <;> subst stepped
    · exact erased.sendFinished none
    · exact erased.handleDisconnect _
  | timerExpires =>
    simp only [NetworkClient.step, Option.some.injEq] at stepped
    subst stepped
    exact ⟨⟨inv.noTimeout, by simp [expireWaits, inv.noWaits], inv.total, inv.single,
      inv.sending⟩, inv.shut, inv.handled⟩
  | timerHandler write =>
    simp [NetworkClient.step, inv.noWaits] at stepped
  | runTask =>
    simp only [NetworkClient.step] at stepped
    split at stepped
    · cases stepped
    · simp only [Option.some.injEq] at stepped
      subst stepped
      exact SendInv.flushSendQueue ⟨⟨inv.noTimeout, inv.noWaits, inv.total, inv.single,
        inv.sending⟩, inv.shut, inv.handled⟩
    · simp only [Option.some.injEq] at stepped
      subst stepped
      exact ⟨⟨inv.noTimeout, by simp [cancelWaits, inv.noWaits], inv.total, inv.single,
        inv.sending⟩, inv.shut, inv.handled⟩

theorem Reachable.sendInv {maxQueueSize : Nat} {c : Client} (reach : Reachable maxQueueSize 0 c) :
    SendInv c := by
  induction reach with
  | initial => exact ⟨⟨rfl, rfl, rfl, Nat.zero_le _, nofun⟩, nofun, nofun⟩
  | step _ _ stepped ih => exact ih.step stepped

/-- Without a write timeout, in every reachable state at most one `async_write` is
outstanding, and a client with a local disconnect, no write in progress and nothing queued has
shut its socket down. The timer is the only way around both. -/
theorem single_write_without_timeout {maxQueueSize : Nat} {c : Client}
    (reach : Reachable maxQueueSize 0 c) :
    c.writes.length ≤ 1 ∧
      (c.localDisconnect = true → c.isSending = false → c.totalQueueSize = 0 →
        c.socket = false) :=
  ⟨reach.sendInv.single, reach.sendInv.shut⟩

theorem single_write_without_timeout_overflow :
    ∃ c, Reachable 1 0 c ∧ c.localDisconnect = true ∧ c.writes = [1] ∧ c.writes.length ≤ 1 :=
  let reach := Reachable.initial.run (show run (initial 1 0) [.sendDatagram [0] true,
    .sendDatagram [0, 0] true, .writeDone 0 none] = some _ from rfl)
  ⟨_, reach, rfl, rfl, (single_write_without_timeout reach).1⟩

@[simp] theorem shutdown_sendQueue (c : Client) : (shutdown c).sendQueue = c.sendQueue := by
  unfold NetworkClient.shutdown; split <;> rfl

@[simp] theorem shutdown_totalQueueSize (c : Client) :
    (shutdown c).totalQueueSize = c.totalQueueSize := by
  unfold NetworkClient.shutdown; split <;> rfl

@[simp] theorem shutdown_assertFailed (c : Client) :
    (shutdown c).assertFailed = c.assertFailed := by
  unfold NetworkClient.shutdown; split <;> rfl

theorem sendBuffer_length (queue : List Bytes) : (sendBuffer queue).length = bufferSize queue := by
  induction queue with
  | nil => rfl
  | cons dg queue ih =>
    simp only [Framing.sendBuffer_cons, List.length_append, ih, bufferSize, dgsizeBytes,
      List.length_cons, List.length_nil]

/-- What every reachable state satisfies, with or without a write timeout: `m_total_queue_size`
counts the queued bytes, and no `assert` of `flush_send_queue` has failed. -/
structure QueueInv (c : Client) : Prop where
  total : c.totalQueueSize = queuedBytes c.sendQueue
  asserts : c.assertFailed = false

theorem QueueInv.shutdown {c : Client} (inv : QueueInv c) : QueueInv (shutdown c) :=
  ⟨by simp [inv.total], by simp [inv.asserts]⟩

theorem flushSendQueue_serialises {c : Client} (inv : QueueInv c) (up : c.socket = true)
    (idle : c.isSending = false) (queued : c.sendQueue ≠ []) :
    (flushSendQueue c).sendBuf = some (sendBuffer c.sendQueue) ∧
      (flushSendQueue c).totalQueueSize = 0 ∧ (flushSendQueue c).assertFailed = false := by
  have nonempty : c.sendQueue.isEmpty = false := by simpa using queued
  simp [NetworkClient.flushSendQueue, up, idle, nonempty, serialise_eq, inv.total, inv.asserts,
    sendBuffer_length]

theorem QueueInv.flushSendQueue {c : Client} (inv : QueueInv c) : QueueInv (flushSendQueue c) := by
  unfold NetworkClient.flushSendQueue
  split_ifs with blocked empty
  · exact inv
  · have none : c.sendQueue = [] := List.isEmpty_iff.mp empty
    exact ⟨inv.total, by simp [inv.asserts, inv.total, none, queuedBytes]⟩
  all_goals exact ⟨by simp [serialise_eq, inv.total, queuedBytes],
    by simp [serialise_eq, inv.total, inv.asserts, sendBuffer_length]⟩

theorem QueueInv.flushOrPost {c : Client} (inv : QueueInv c) (onMain : Bool) :
    QueueInv (flushOrPost c onMain) := by
  unfold NetworkClient.flushOrPost
  split
  · exact inv.flushSendQueue
  · exact ⟨inv.total, inv.asserts⟩

theorem QueueInv.disconnect {c : Client} (inv : QueueInv c) (ec : ErrorCode) (onMain : Bool) :
    QueueInv (disconnect c ec onMain) := by
  have marked : QueueInv { c with localDisconnect := true, disconnectError := ec } :=
    ⟨inv.total, inv.asserts⟩
  unfold NetworkClient.disconnect
  dsimp only
  split_ifs
  · exact inv
  · exact marked.shutdown
  · exact marked.flushOrPost onMain

theorem QueueInv.sendDatagram {c : Client} (inv : QueueInv c) (dg : Bytes) (onMain : Bool) :
    QueueInv (sendDatagram c dg onMain) := by
  have queued : QueueInv (enqueue c dg) :=
    ⟨by simp [NetworkClient.enqueue, inv.total], inv.asserts⟩
  unfold NetworkClient.sendDatagram
  dsimp only
  split_ifs
  · exact inv
  · exact queued.disconnect _ _
  · exact queued.flushOrPost _

theorem QueueInv.handleDisconnect {c : Client} (inv : QueueInv c) (ec : ErrorCode) :
    QueueInv (handleDisconnect c ec) := by
  unfold NetworkClient.handleDisconnect
  split
  · exact inv
  · have down := QueueInv.shutdown (c := { c with disconnectHandled := true })
      ⟨inv.total, inv.asserts⟩
    exact ⟨down.total, down.asserts⟩

theorem QueueInv.sendFinished {c : Client} (inv : QueueInv c) : QueueInv (sendFinished c) := by
  unfold NetworkClient.sendFinished
  dsimp only
  split_ifs
  · exact inv
  · exact ⟨inv.total, inv.asserts⟩
  · exact QueueInv.shutdown ⟨inv.total, inv.asserts⟩
  · exact QueueInv.flushSendQueue ⟨inv.total, inv.asserts⟩

theorem QueueInv.sendExpired {c : Client} (inv : QueueInv c) : QueueInv (sendExpired c) := by
  unfold NetworkClient.sendExpired
  split
  · exact inv
  · apply QueueInv.disconnect
    exact ⟨rfl, inv.asserts⟩

theorem QueueInv.step {c c' : Client} (inv : QueueInv c) {e : Event}
    (stepped : step c e = some c') : QueueInv c' := by
  cases e with
  | sendDatagram dg onMain => exact Option.some.inj stepped ▸ inv.sendDatagram dg onMain
  | disconnect ec onMain => exact Option.some.inj stepped ▸ inv.disconnect ec onMain
  | readError ec => exact Option.some.inj stepped ▸ inv.handleDisconnect ec
  | writeDone write result =>
    simp only [NetworkClient.step] at stepped
    split_ifs at stepped
    have erased : QueueInv { c with writes := c.writes.erase write } := ⟨inv.total, inv.asserts⟩
    cases result <;> simp only [Option.some.injEq] at stepped <;> subst stepped
    · exact erased.sendFinished
    · exact erased.handleDisconnect _
  | timerExpires => exact Option.some.inj stepped ▸ ⟨inv.total, inv.asserts⟩
  | timerHandler write =>
    simp only [NetworkClient.step] at stepped
    split at stepped <;> simp only [Option.some.injEq, reduceCtorEq] at stepped <;> subst stepped
    · exact QueueInv.sendExpired ⟨inv.total, inv.asserts⟩
    · exact ⟨inv.total, inv.asserts⟩
  | runTask =>
    simp only [NetworkClient.step] at stepped
    split at stepped <;> simp only [Option.some.injEq, reduceCtorEq] at stepped <;> subst stepped
    · exact QueueInv.flushSendQueue ⟨inv.total, inv.asserts⟩
    · exact ⟨inv.total, inv.asserts⟩

theorem Reachable.queueInv {maxQueueSize writeTimeout : Nat} {c : Client}
    (reach : Reachable maxQueueSize writeTimeout c) : QueueInv c := by
  induction reach with
  | initial => exact ⟨rfl, rfl⟩
  | step _ _ stepped ih => exact ih.step stepped

/-- In every reachable state, whatever the byte limit and the write timeout,
`m_total_queue_size` is the number of bytes queued and no `assert` of `flush_send_queue` has
failed. A `flush_send_queue` that serialises copies each queued datagram after its length into
a buffer of exactly `buffer_size` bytes, two per datagram plus its size, and leaves the count
at zero. -/
theorem totalQueueSize_counts_queue {maxQueueSize writeTimeout : Nat} {c : Client}
    (reach : Reachable maxQueueSize writeTimeout c) :
    c.totalQueueSize = queuedBytes c.sendQueue ∧ c.assertFailed = false ∧
      (c.socket = true → c.isSending = false → c.sendQueue ≠ [] →
        (flushSendQueue c).sendBuf = some (sendBuffer c.sendQueue) ∧
        (sendBuffer c.sendQueue).length = bufferSize c.sendQueue ∧
        (flushSendQueue c).totalQueueSize = 0) :=
  ⟨reach.queueInv.total, reach.queueInv.asserts, fun up idle queued =>
    have flushed := flushSendQueue_serialises reach.queueInv up idle queued
    ⟨flushed.1, sendBuffer_length _, flushed.2.1⟩⟩

/-- With a write timeout set, two datagrams of two and three bytes wait behind the first
write: the count is five, and the next flush copies them into a buffer of nine bytes. -/
theorem totalQueueSize_counts_queue_backlog :
    ∃ c, Reachable 0 1 c ∧ c.totalQueueSize = 5 ∧ bufferSize c.sendQueue = 9 ∧
      c.totalQueueSize = queuedBytes c.sendQueue ∧ c.assertFailed = false :=
  let reach := Reachable.initial.run (show run (initial 0 1) [.sendDatagram [0] true,
    .sendDatagram [1, 2] true, .sendDatagram [3, 4, 5] true] = some _ from rfl)
  ⟨_, reach, rfl, rfl, (totalQueueSize_counts_queue reach).1,
    (totalQueueSize_counts_queue reach).2.1⟩

end Astron.NetworkClient

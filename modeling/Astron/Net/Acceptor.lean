import Astron.Net.Address

set_option autoImplicit false

/- `NetworkAcceptor` and `TcpAcceptor` (src/net/NetworkAcceptor.cpp, src/net/TcpAcceptor.cpp),
the io_context their handlers run on, and the `handle_error` that the client agent and the
message director give them as `m_err_callback` (src/clientagent/ClientAgent.cpp,
src/messagedirector/MessageDirector.cpp). Both roles construct a `TcpAcceptor`, call `bind` and
then `start`, and the client agent sets the HAProxy mode first.

The socket follows Linux and Boost.Asio. `close()` completes every waiting `async_accept` with
`operation_aborted`; a handler already queued keeps its result. `accept` on an open socket that
is not listening fails with `EINVAL` at once. `listen` on a closed socket fails with `EBADF`, and
on an open socket that was never bound the kernel binds it to a port of its own choosing on the
wildcard address. What the system answers to `open`, `set_option`, `bind` and `listen`, and
which connections arrive, are the events' data. The io_context runs one handler at a time, the
oldest first, between the main thread's calls. Ghosts record the calls of both callbacks, the
connections the system accepted and those `handle_accept` closed. -/

namespace Astron.NetworkAcceptor

open Astron.Address (NetAddress)

/-- The `boost::system::error_code`s the acceptor reports and its handlers receive. -/
inductive NetError where
  | operationAborted  -- `operation_aborted`: the acceptor was closed while an accept waited
  | addressInUse  -- `errc::address_in_use`
  | addressNotAvailable  -- `errc::address_not_available`
  | invalidArgument  -- `EINVAL`: `accept` on a socket that is not listening
  | badDescriptor  -- `EBADF`: `listen` on a closed socket
  | other (code : Nat)  -- Any other code of the system (`EACCES`, `EMFILE`, ...)
deriving DecidableEq, Repr

/-- `m_acceptor` as the system sees it. -/
inductive Socket where
  | closed
  | opened  -- Open and not bound
  | bound (endpoint : NetAddress)
  | listening (endpoint : Option NetAddress)
deriving DecidableEq, Repr

namespace Socket

/-- `is_open()`. -/
def isOpen : Socket → Bool
  | .closed => false
  | _ => true

/-- Whether the socket listens. -/
def isListening : Socket → Bool
  | .listening _ => true
  | _ => false

/-- The endpoint `bind` bound the socket to, if any. -/
def endpoint : Socket → Option NetAddress
  | .bound a => some a
  | .listening a => a
  | _ => none

/-- `listen(max_listen_connections, ec)`: `EBADF` on a closed socket; on an open one, the
system's error if it gives one, and otherwise a listening socket, bound by the kernel if
nothing bound it before. -/
def listen (osError : Option NetError) (s : Socket) : Except NetError Socket :=
  if s.isOpen then
    match osError with
    | some e => .error e
    | none => .ok (.listening s.endpoint)
  else .error .badDescriptor

end Socket

/-- What the system answers to the calls one turn of `bind`'s loop makes on an endpoint: `open`,
`set_option(reuse_address)` and `bind`, each an error or `none` for success. -/
structure Attempt where
  openError : Option NetError
  optionError : Option NetError
  bindError : Option NetError
deriving DecidableEq, Repr

/-- The socket after one turn on `addr`, which began with `close()`, and `last_error`: the
error of the first call that failed, `none` once the socket is bound. -/
def Attempt.outcome (a : Attempt) (addr : NetAddress) : Socket × Option NetError :=
  match a.openError with
  | some e => (.closed, some e)
  | none =>
    match a.optionError with
    | some e => (.opened, some e)
    | none =>
      match a.bindError with
      | some e => (.opened, some e)
      | none => (.bound addr, none)

/-- An accepted connection as `handle_accept` reads it: `remote_endpoint(ec)` and
`local_endpoint(ec)`, `none` when the call sets `ec`. -/
structure Connection where
  remoteEndpoint : Option NetAddress
  localEndpoint : Option NetAddress
deriving DecidableEq, Repr

/-- A call `m_callback(socket, remote, local, m_haproxy_mode)`. -/
structure Delivery where
  remote : NetAddress
  localAddress : NetAddress
  haproxyMode : Bool
deriving DecidableEq, Repr

/-- A completion handler of `async_accept` queued on the io_context, with its result. -/
inductive Completion where
  | accepted (conn : Connection)
  | failed (error : NetError)
deriving DecidableEq, Repr

/-- `ClientAgent::handle_error`, which `MessageDirector::handle_error` repeats: whether it logs
a fatal error and calls `exit(1)`. -/
def handleError (e : NetError) : Bool :=
  e == .addressInUse || e == .addressNotAvailable

namespace Completion

/-- Whether the handler calls `start_accept` again: all but an `operation_aborted` one do. -/
def rearms : Completion → Bool
  | .accepted _ => true
  | .failed e => e != .operationAborted

/-- Whether the handler carries a connection. -/
def isAccepted : Completion → Bool
  | .accepted _ => true
  | .failed _ => false

/-- Whether running the handler ends the process. -/
def exits : Completion → Bool
  | .accepted _ => false
  | .failed e => handleError e

end Completion

/-- A `TcpAcceptor` and the io_context its handlers run on. `socket`, `started` and
`haproxyMode` are `m_acceptor`, `m_started` and `m_haproxy_mode`; `pending` counts the
`async_accept`s waiting on the socket and `ready` holds the completion handlers not run yet,
oldest first. The other fields are ghosts. -/
structure Acceptor where
  socket : Socket
  started : Bool
  haproxyMode : Bool
  pending : Nat
  ready : List Completion
  delivered : List Delivery  -- The calls of `m_callback`, in order
  errors : List NetError  -- The calls of `m_err_callback`, in order
  accepted : Nat  -- The connections the system accepted
  dropped : Nat  -- The accepted sockets `handle_accept` closed
  exited : Bool  -- `handle_error` called `exit(1)`
deriving DecidableEq, Repr

namespace Acceptor

/-- `TcpAcceptor(callback, err_callback)`: a closed acceptor, not started. -/
def construct : Acceptor := ⟨.closed, false, false, 0, [], [], [], 0, 0, false⟩

/-- `m_err_callback(NetErrorEvent(ec))`. When it calls `exit(1)` the process ends there, and
nothing the model computes after it in the same call is observed. -/
def reportError (w : Acceptor) (e : NetError) : Acceptor :=
  { w with errors := w.errors ++ [e], exited := w.exited || handleError e }

/-- `m_acceptor->close()`. -/
def close (w : Acceptor) : Acceptor :=
  { w with socket := .closed, pending := 0,
           ready := w.ready ++ List.replicate w.pending (.failed .operationAborted) }

/-- One turn of `bind`'s loop on `addr`, with `last_error` after it. -/
def tryEndpoint (os : NetAddress → Attempt) (w : Acceptor) (addr : NetAddress) :
    Acceptor × Option NetError :=
  let outcome := (os addr).outcome addr
  ({ w.close with socket := outcome.1 }, outcome.2)

/-- The loop of `bind` over `addr :: rest`: it stops at the first endpoint bound, and otherwise
ends with the last turn's `last_error`. -/
def bindLoop (os : NetAddress → Attempt) (w : Acceptor) (addr : NetAddress) :
    List NetAddress → Acceptor × Option NetError
  | [] => tryEndpoint os w addr
  | next :: rest =>
    match tryEndpoint os w addr with
    | (w, none) => (w, none)
    | (w, some _) => bindLoop os w next rest

/-- `NetworkAcceptor::bind` on the endpoints that `resolve_address(address, default_port)`
gave. -/
def bind (os : NetAddress → Attempt) (w : Acceptor) : List NetAddress → Acceptor
  | [] => w.reportError .addressNotAvailable
  | addr :: rest =>
    match bindLoop os w addr rest with
    | (w, none) => w
    | (w, some e) => w.reportError e

/-- `TcpAcceptor::start_accept`: nothing unless started and open. On a listening socket
`async_accept` waits; on an open one that is not listening it fails with `EINVAL` at once. -/
def startAccept (w : Acceptor) : Acceptor :=
  if w.started && w.socket.isOpen then
    if w.socket.isListening then { w with pending := w.pending + 1 }
    else { w with ready := w.ready ++ [.failed .invalidArgument] }
  else w

/-- `TcpAcceptor::handle_endpoints`. -/
def handleEndpoints (w : Acceptor) (remote localAddress : NetAddress) : Acceptor :=
  { w with delivered := w.delivered ++ [⟨remote, localAddress, w.haproxyMode⟩] }

/-- `TcpAcceptor::handle_accept`: the socket is closed when the acceptor is stopped or either
endpoint cannot be read. -/
def handleAccept (w : Acceptor) (conn : Connection) : Acceptor :=
  if !w.started then { w with dropped := w.dropped + 1 }
  else
    match conn.remoteEndpoint, conn.localEndpoint with
    | some remote, some localAddress => w.handleEndpoints remote localAddress
    | _, _ => { w with dropped := w.dropped + 1 }

/-- The completion handler `start_accept` passes to `async_accept`. -/
def acceptHandler (w : Acceptor) : Completion → Acceptor
  | .failed e => if e = .operationAborted then w else (w.reportError e).startAccept
  | .accepted conn => (w.handleAccept conn).startAccept

/-- `NetworkAcceptor::start`. -/
def start (listenError : Option NetError) (w : Acceptor) : Acceptor :=
  if w.started then w
  else
    match w.socket.listen listenError with
    | .error e => { w with started := true }.reportError e
    | .ok s => { w with started := true, socket := s }.startAccept

/-- `NetworkAcceptor::stop`. -/
def stop (w : Acceptor) : Acceptor :=
  if w.started then { w with started := false }.close else w

/-- A waiting accept completing with `c`: its handler is queued. -/
def complete (w : Acceptor) (c : Completion) : Acceptor :=
  { w with pending := w.pending - 1, ready := w.ready ++ [c] }

end Acceptor

/-- What can happen next: a call on the main thread, a waiting accept completing, or the
io_context running the oldest queued handler. `bind` carries the endpoints `resolve_address`
gave and the system's answers for each; `start` the system's answer to `listen`. -/
inductive Event where
  | bind (addresses : List NetAddress) (os : NetAddress → Attempt)
  | start (listenError : Option NetError)
  | stop
  | setHaproxyMode (mode : Bool)
  | accept (conn : Connection)
  | acceptFails (code : Nat)
  | runHandler

/-- Whether the event is a call of `start()`. -/
def Event.isStart : Event → Bool
  | .start _ => true
  | _ => false

/-- Whether the event comes from the network and the io_context, not from the role. -/
def Event.isNetwork : Event → Bool
  | .accept _ | .acceptFails _ | .runHandler => true
  | _ => false

namespace Acceptor

/-- One step; `none` when the event cannot happen, and for every event after an `exit(1)`. -/
def step (w : Acceptor) (e : Event) : Option Acceptor :=
  if w.exited then none
  else
    match e with
    | .bind addresses os => some (w.bind os addresses)
    | .start listenError => some (w.start listenError)
    | .stop => some w.stop
    | .setHaproxyMode mode => some { w with haproxyMode := mode }
    | .accept conn =>
      if 0 < w.pending then some { w.complete (.accepted conn) with accepted := w.accepted + 1 }
      else none
    | .acceptFails code => if 0 < w.pending then some (w.complete (.failed (.other code))) else none
    | .runHandler =>
      match w.ready with
      | [] => none
      | c :: rest => some ({ w with ready := rest }.acceptHandler c)

/-- A run: the events in order, `none` if one of them cannot happen. -/
def run (w : Acceptor) : List Event → Option Acceptor
  | [] => some w
  | e :: events => (w.step e).bind fun w => w.run events

/-- The calls the client agent's constructor makes: `set_haproxy_mode`, `bind`, `start`. The
message director's `init_network` makes the last two and keeps the mode `false`. -/
def roleStartup (mode : Bool) (addresses : List NetAddress) (os : NetAddress → Attempt)
    (listenError : Option NetError) : List Event :=
  [.setHaproxyMode mode, .bind addresses os, .start listenError]

/-- The accept loops alive: accepts waiting on the socket, and queued handlers that will call
`start_accept` again. -/
def live (w : Acceptor) : Nat := w.pending + w.ready.countP Completion.rearms

/-- The accepted connections handed to the role, closed, or in a queued handler. -/
def placed (w : Acceptor) : Nat :=
  w.delivered.length + w.dropped + w.ready.countP Completion.isAccepted

theorem run_keeps (P : Acceptor → Prop) (allowed : Event → Prop)
    (keeps : ∀ {w w' : Acceptor} {e : Event}, allowed e → P w → w.step e = some w' → P w') :
    ∀ {w w' : Acceptor} {events : List Event}, (∀ e ∈ events, allowed e) → P w →
      w.run events = some w' → P w'
  | _, _, [], _, holds, ran => by cases ran; exact holds
  | _, _, e :: events, ok, holds, ran => by
    obtain ⟨next, stepped, ran⟩ := Option.bind_eq_some.mp ran
    exact run_keeps P allowed keeps (fun e' mem => ok e' (List.mem_cons_of_mem e mem))
      (keeps (ok e (List.mem_cons_self e events)) holds stepped) ran

theorem run_cons {w v : Acceptor} {e : Event} (stepped : w.step e = some v) (events : List Event) :
    w.run (e :: events) = v.run events := by
  rw [run, stepped]; rfl

variable {w : Acceptor}

theorem close_reclose (s : Socket) : { w.close with socket := s }.close = w.close := by
  simp [close]

theorem tryEndpoint_reclose (os : NetAddress → Attempt) (s : Socket) (addr : NetAddress) :
    tryEndpoint os { w.close with socket := s } addr = tryEndpoint os w addr := by
  simp only [tryEndpoint, close_reclose]

theorem outcome_not_listening (a : Attempt) (addr : NetAddress) :
    (a.outcome addr).1.isListening = false := by
  unfold Attempt.outcome
  split
  · rfl
  · split
    · rfl
    · split <;> rfl

theorem bindLoop_eq (os : NetAddress → Attempt) (w : Acceptor) (addr : NetAddress)
    (rest : List NetAddress) :
    ∃ s err, bindLoop os w addr rest = ({ w.close with socket := s }, err) ∧
      s.isListening = false := by
  induction rest generalizing w addr with
  | nil => exact ⟨_, _, rfl, outcome_not_listening _ _⟩
  | cons next rest ih =>
    cases found : ((os addr).outcome addr).2 with
    | none =>
      exact ⟨((os addr).outcome addr).1, none, by simp only [bindLoop, tryEndpoint, found],
        outcome_not_listening _ _⟩
    | some e =>
      obtain ⟨s, err, loop, listening⟩ := ih { w.close with socket := ((os addr).outcome addr).1 } next
      refine ⟨s, err, ?_, listening⟩
      simp only [bindLoop, tryEndpoint, found]
      rw [loop, close_reclose]

theorem bindLoop_of_fails (os : NetAddress → Attempt) (last : NetAddress) :
    ∀ (w : Acceptor) (addr : NetAddress) (init : List NetAddress),
      (∀ x ∈ addr :: init, ((os x).outcome x).2.isSome) →
      bindLoop os w addr (init ++ [last]) = tryEndpoint os w last
  | w, addr, init, fails => by
    have turn := fails addr (List.mem_cons_self _ _)
    cases found : ((os addr).outcome addr).2 with
    | none => simp [found] at turn
    | some e =>
      cases init with
      | nil => simp only [List.nil_append, bindLoop, tryEndpoint, found, close_reclose]
      | cons next init =>
        simp only [List.cons_append, bindLoop, tryEndpoint, found]
        exact (bindLoop_of_fails os last _ next init
          (fun x mem => fails x (List.mem_cons_of_mem _ mem))).trans (tryEndpoint_reclose os _ last)

theorem bind_of_fails (os : NetAddress → Attempt) (init : List NetAddress) (last : NetAddress)
    (fails : ∀ x ∈ init, ((os x).outcome x).2.isSome) :
    w.bind os (init ++ [last]) =
      match tryEndpoint os w last with
      | (w, none) => w
      | (w, some e) => w.reportError e := by
  cases init with
  | nil => rfl
  | cons addr init => simp only [List.cons_append, bind, bindLoop_of_fails os last w addr init fails]

theorem bind_cases (os : NetAddress → Attempt) (addresses : List NetAddress) :
    w.bind os addresses = w.reportError .addressNotAvailable ∨
      ∃ s, s.isListening = false ∧
        (w.bind os addresses = { w.close with socket := s } ∨
          ∃ e, w.bind os addresses = { w.close with socket := s }.reportError e) := by
  cases addresses with
  | nil => exact .inl rfl
  | cons addr rest =>
    obtain ⟨s, err, loop, listening⟩ := bindLoop_eq os w addr rest
    refine .inr ⟨s, listening, ?_⟩
    cases err with
    | none => exact .inl (by simp only [bind, loop])
    | some e => exact .inr ⟨e, by simp only [bind, loop]⟩

theorem listen_listening {err : Option NetError} {s s' : Socket} (ok : s.listen err = .ok s') :
    s'.isListening = true := by
  unfold Socket.listen at ok
  split at ok
  · split at ok
    · cases ok
    · cases ok; rfl
  · cases ok

theorem startAccept_frame :
    ∃ pending ready, w.startAccept = { w with pending := pending, ready := ready } ∧
      (ready = w.ready ∨ ready = w.ready ++ [.failed .invalidArgument]) := by
  unfold startAccept
  split_ifs
  · exact ⟨_, _, rfl, .inl rfl⟩
  · exact ⟨_, _, rfl, .inr rfl⟩
  · exact ⟨_, _, rfl, .inl rfl⟩

theorem placed_startAccept : placed w.startAccept = placed w ∧ w.startAccept.accepted = w.accepted := by
  obtain ⟨_, _, eq, ready | ready⟩ := startAccept_frame (w := w) <;> rw [eq] <;>
    simp [placed, ready, Completion.isAccepted]

theorem open_of_listening {s : Socket} (listening : s.isListening = true) : s.isOpen = true := by
  cases s <;> simp_all [Socket.isListening, Socket.isOpen]

theorem startAccept_of_listening (started : w.started = true)
    (listening : w.socket.isListening = true) :
    w.startAccept = { w with pending := w.pending + 1 } := by
  simp [startAccept, started, open_of_listening listening, listening]

theorem handleAccept_frame (conn : Connection) :
    ∃ delivered dropped, w.handleAccept conn = { w with delivered := delivered, dropped := dropped } ∧
      delivered.length + dropped = w.delivered.length + w.dropped + 1 := by
  unfold handleAccept
  split
  · exact ⟨_, _, rfl, rfl⟩
  · split
    · exact ⟨_, _, rfl, by simp only [List.length_append, List.length_singleton]; omega⟩
    · exact ⟨_, _, rfl, rfl⟩

theorem acceptHandler_frame (c : Completion) :
    (w.acceptHandler c).socket = w.socket ∧ (w.acceptHandler c).started = w.started ∧
      (w.acceptHandler c).accepted = w.accepted ∧
      (w.acceptHandler c).exited = (w.exited || c.exits) ∧
      ∀ x ∈ (w.acceptHandler c).ready, x ∈ w.ready ∨ x = .failed .invalidArgument := by
  cases c with
  | failed e =>
    by_cases aborted : e = .operationAborted
    · subst aborted
      exact ⟨rfl, rfl, rfl, by simp [acceptHandler, Completion.exits, handleError], fun x mem => .inl mem⟩
    · obtain ⟨_, _, started, queued⟩ := startAccept_frame (w := w.reportError e)
      simp only [acceptHandler, aborted, if_false, started, Completion.exits]
      refine ⟨rfl, rfl, rfl, rfl, fun x mem => ?_⟩
      rcases queued with rfl | rfl
      exacts [.inl mem, by simpa [reportError] using mem]
  | accepted conn =>
    obtain ⟨_, _, handled, -⟩ := handleAccept_frame (w := w) conn
    obtain ⟨_, _, started, queued⟩ := startAccept_frame (w := w.handleAccept conn)
    simp only [acceptHandler, started, Completion.exits, Bool.or_false]
    rw [handled] at queued ⊢
    refine ⟨rfl, rfl, rfl, rfl, fun x mem => ?_⟩
    rcases queued with rfl | rfl
    exacts [.inl mem, by simpa using mem]

theorem step_cases {e : Event} {w' : Acceptor} (stepped : w.step e = some w') :
    w.exited = false ∧
      ((∃ addresses os, e = .bind addresses os ∧ w' = w.bind os addresses) ∨
        (∃ listenError, e = .start listenError ∧ w' = w.start listenError) ∨
        (e = .stop ∧ w' = w.stop) ∨
        (∃ mode, e = .setHaproxyMode mode ∧ w' = { w with haproxyMode := mode }) ∨
        (∃ conn, e = .accept conn ∧ 0 < w.pending ∧
          w' = { w.complete (.accepted conn) with accepted := w.accepted + 1 }) ∨
        (∃ code, e = .acceptFails code ∧ 0 < w.pending ∧
          w' = w.complete (.failed (.other code))) ∨
        (∃ c rest, e = .runHandler ∧ w.ready = c :: rest ∧
          w' = { w with ready := rest }.acceptHandler c)) := by
  unfold step at stepped
  split at stepped
  · cases stepped
  next running =>
  refine ⟨by simpa using running, ?_⟩
  cases e with
  | bind addresses os => cases stepped; exact .inl ⟨_, _, rfl, rfl⟩
  | start listenError => cases stepped; exact .inr (.inl ⟨_, rfl, rfl⟩)
  | stop => cases stepped; exact .inr (.inr (.inl ⟨rfl, rfl⟩))
  | setHaproxyMode mode => cases stepped; exact .inr (.inr (.inr (.inl ⟨_, rfl, rfl⟩)))
  | accept conn =>
    simp only at stepped
    split at stepped
    · next waiting => cases stepped; exact .inr (.inr (.inr (.inr (.inl ⟨_, rfl, waiting, rfl⟩))))
    · cases stepped
  | acceptFails code =>
    simp only at stepped
    split at stepped
    · next waiting =>
      cases stepped; exact .inr (.inr (.inr (.inr (.inr (.inl ⟨_, rfl, waiting, rfl⟩)))))
    · cases stepped
  | runHandler =>
    simp only at stepped
    split at stepped
    · cases stepped
    · next c rest queued =>
      cases stepped; exact .inr (.inr (.inr (.inr (.inr (.inr ⟨c, rest, rfl, queued, rfl⟩)))))

theorem placed_bind (os : NetAddress → Attempt) (addresses : List NetAddress) :
    placed (w.bind os addresses) = placed w ∧ (w.bind os addresses).accepted = w.accepted := by
  rcases bind_cases (w := w) os addresses with eq | ⟨s, -, eq | ⟨e, eq⟩⟩ <;> rw [eq] <;>
    simp [reportError, close, placed, List.countP_replicate, Completion.isAccepted]

theorem placed_start (listenError : Option NetError) :
    placed (w.start listenError) = placed w ∧ (w.start listenError).accepted = w.accepted := by
  unfold start
  split
  · exact ⟨rfl, rfl⟩
  · split
    · exact ⟨rfl, rfl⟩
    · exact placed_startAccept

theorem placed_acceptHandler (c : Completion) :
    placed (w.acceptHandler c) = placed w + if c.isAccepted then 1 else 0 := by
  cases c with
  | failed e =>
    by_cases aborted : e = .operationAborted
    · subst aborted; rfl
    · simp only [acceptHandler, aborted, if_false, placed_startAccept.1, Completion.isAccepted,
        Bool.false_eq_true, Nat.add_zero]
      rfl
  | accepted conn =>
    obtain ⟨_, _, handled, count⟩ := handleAccept_frame (w := w) conn
    simp only [acceptHandler, placed_startAccept.1, handled, Completion.isAccepted, if_true]
    simp only [placed]; omega

theorem step_conserves {w' : Acceptor} {e : Event} (conserved : w.accepted = placed w)
    (stepped : w.step e = some w') : w'.accepted = placed w' := by
  obtain ⟨-, ⟨_, os, rfl, rfl⟩ | ⟨_, rfl, rfl⟩ | ⟨rfl, rfl⟩ | ⟨_, rfl, rfl⟩ |
    ⟨_, rfl, waiting, rfl⟩ | ⟨_, rfl, waiting, rfl⟩ | ⟨c, rest, rfl, queued, rfl⟩⟩ :=
    step_cases stepped
  · rw [(placed_bind os _).1, (placed_bind os _).2, conserved]
  · rw [(placed_start _).1, (placed_start _).2, conserved]
  · unfold stop
    split
    · simpa [close, placed, List.countP_replicate, Completion.isAccepted] using conserved
    · exact conserved
  · exact conserved
  · simp [complete, placed, Completion.isAccepted, conserved]; omega
  · simpa [complete, placed, Completion.isAccepted] using conserved
  · rw [(acceptHandler_frame c).2.2.1, placed_acceptHandler]
    have parts : placed w = placed { w with ready := rest } + if c.isAccepted then 1 else 0 := by
      simp only [placed, queued, List.countP_cons]; omega
    simpa [parts] using conserved

/-- Every connection the system accepted is, at every point of a run, in exactly one place:
handed to the role's callback, closed by `handle_accept`, or in a handler still queued. None is
lost or handed over twice, whatever the order of stops, restarts, errors and handlers. -/
theorem accepted_conserved {events : List Event} {w' : Acceptor}
    (ran : construct.run events = some w') :
    w'.accepted = w'.delivered.length + w'.dropped + w'.ready.countP Completion.isAccepted :=
  run_keeps (fun w => w.accepted = placed w) (fun _ => True)
    (fun _ conserved stepped => step_conserves conserved stepped) (fun _ _ => trivial) rfl ran

/-- A connection delivered, then one accepted before `stop()` and closed when its handler runs
after it. -/
theorem accepted_conserved_stop_drops :
    ∃ w, construct.run [.bind [⟨"0.0.0.0", 7198⟩] (fun _ => ⟨none, none, none⟩), .start none,
        .accept ⟨some ⟨"10.0.0.2", 50000⟩, some ⟨"10.0.0.1", 7198⟩⟩, .runHandler,
        .accept ⟨some ⟨"10.0.0.3", 50001⟩, some ⟨"10.0.0.1", 7198⟩⟩, .stop, .runHandler] = some w ∧
      w.accepted = 2 ∧ w.delivered.length = 1 ∧ w.dropped = 1 ∧
      w.accepted = w.delivered.length + w.dropped + w.ready.countP Completion.isAccepted :=
  ⟨_, rfl, rfl, rfl, rfl, @accepted_conserved
    [.bind [⟨"0.0.0.0", 7198⟩] (fun _ => ⟨none, none, none⟩), .start none,
      .accept ⟨some ⟨"10.0.0.2", 50000⟩, some ⟨"10.0.0.1", 7198⟩⟩, .runHandler,
      .accept ⟨some ⟨"10.0.0.3", 50001⟩, some ⟨"10.0.0.1", 7198⟩⟩, .stop, .runHandler] _ rfl⟩

theorem live_close_le : live w.close ≤ live w := by
  simp [live, close, List.countP_replicate, Completion.rearms]

theorem live_startAccept :
    live w.startAccept = live w + if w.started && w.socket.isOpen then 1 else 0 := by
  unfold startAccept
  split_ifs <;> simp [live, Completion.rearms] <;> omega

theorem live_acceptHandler (c : Completion) :
    live (w.acceptHandler c) = live w + if c.rearms && w.started && w.socket.isOpen then 1 else 0 := by
  cases c with
  | failed e =>
    by_cases aborted : e = .operationAborted
    · subst aborted; rfl
    · simp only [acceptHandler, aborted, if_false, live_startAccept]
      simp [reportError, live, Completion.rearms, aborted]
  | accepted conn =>
    obtain ⟨_, _, handled, _⟩ := handleAccept_frame (w := w) conn
    simp only [acceptHandler, live_startAccept, handled, Completion.rearms, Bool.true_and]
    rfl

theorem step_live {e : Event} {w' : Acceptor} (stepped : w.step e = some w') :
    live w' ≤ live w + if e.isStart then 1 else 0 := by
  obtain ⟨-, ⟨_, os, rfl, rfl⟩ | ⟨_, rfl, rfl⟩ | ⟨rfl, rfl⟩ | ⟨_, rfl, rfl⟩ |
    ⟨_, rfl, waiting, rfl⟩ | ⟨_, rfl, waiting, rfl⟩ | ⟨c, rest, rfl, queued, rfl⟩⟩ :=
    step_cases stepped
  · rcases bind_cases (w := w) os _ with eq | ⟨s, -, eq | ⟨e, eq⟩⟩ <;> rw [eq]
    · exact Nat.le_add_right _ _
    all_goals exact live_close_le.trans (Nat.le_add_right _ _)
  · unfold start
    split
    · exact Nat.le_add_right _ _
    · split
      · exact Nat.le_add_right _ _
      · rw [live_startAccept]
        split <;> simp [live, Event.isStart]
  · unfold stop
    split
    · exact live_close_le.trans (Nat.le_add_right _ _)
    · exact Nat.le_add_right _ _
  · exact Nat.le_add_right _ _
  · simp [live, complete, Completion.rearms, Event.isStart]; omega
  · simp [live, complete, Completion.rearms, Event.isStart]; omega
  · rw [live_acceptHandler]
    have parts : live w = live { w with ready := rest } + if c.rearms then 1 else 0 := by
      simp only [live, queued, List.countP_cons]; omega
    rw [parts]
    cases c.rearms
    · simp
    · simp only [Bool.true_and, if_true, Event.isStart]; split <;> omega

theorem live_run : ∀ {w w' : Acceptor} {events : List Event}, w.run events = some w' →
    live w' ≤ live w + events.countP Event.isStart
  | _, _, [], ran => by cases ran; exact Nat.le_add_right _ _
  | _, _, _ :: _, ran => by
    obtain ⟨_, stepped, ran⟩ := Option.bind_eq_some.mp ran
    have first := step_live stepped
    have later := live_run ran
    simp only [List.countP_cons]; omega

/-- No event but `start()` begins an accept loop: a handler re-arms only the loop it belongs to,
and `bind`, `stop` and `operation_aborted` only end loops. So from the constructor the accept
loops alive never outnumber the `start()` calls made. -/
theorem live_le_starts {events : List Event} {w' : Acceptor} (ran : construct.run events = some w') :
    live w' ≤ events.countP Event.isStart :=
  (live_run ran).trans_eq (Nat.zero_add _)

/-- Two starts with a connection's handler queued across the stop between them: two loops. -/
theorem live_le_starts_restart :
    ∃ w, construct.run [.bind [⟨"0.0.0.0", 7198⟩] (fun _ => ⟨none, none, none⟩), .start none,
        .accept ⟨some ⟨"10.0.0.2", 50000⟩, some ⟨"10.0.0.1", 7198⟩⟩, .stop,
        .bind [⟨"0.0.0.0", 7198⟩] (fun _ => ⟨none, none, none⟩), .start none, .runHandler] = some w ∧
      live w = 2 ∧ live w ≤ 2 :=
  ⟨_, rfl, rfl, @live_le_starts
    [.bind [⟨"0.0.0.0", 7198⟩] (fun _ => ⟨none, none, none⟩), .start none,
      .accept ⟨some ⟨"10.0.0.2", 50000⟩, some ⟨"10.0.0.1", 7198⟩⟩, .stop,
      .bind [⟨"0.0.0.0", 7198⟩] (fun _ => ⟨none, none, none⟩), .start none, .runHandler] _ rfl⟩

/-- An acceptor that is not started, with no accept waiting or queued, on a socket that does not
listen: what the constructor, `set_haproxy_mode` and `bind` leave. -/
structure Idle (w : Acceptor) : Prop where
  stopped : w.started = false
  noWait : w.pending = 0
  noQueue : w.ready = []
  notListening : w.socket.isListening = false

theorem Idle.bind (idle : Idle w) (os : NetAddress → Attempt) (addresses : List NetAddress) :
    Idle (w.bind os addresses) := by
  have closed : w.close.ready = [] := by simp [close, idle.noQueue, idle.noWait]
  rcases bind_cases (w := w) os addresses with eq | ⟨s, listening, eq | ⟨e, eq⟩⟩ <;> rw [eq]
  · exact ⟨idle.stopped, idle.noWait, idle.noQueue, idle.notListening⟩
  · exact ⟨idle.stopped, rfl, closed, listening⟩
  · exact ⟨idle.stopped, rfl, closed, listening⟩

/-- A started acceptor listening on `s`, with one accept loop and no queued handler that would
end the process. -/
structure Serving (s : Socket) (w : Acceptor) : Prop where
  socket : w.socket = s
  started : w.started = true
  running : w.exited = false
  one : live w = 1
  quiet : ∀ c ∈ w.ready, c.exits = false

theorem Idle.serving_of_start (idle : Idle w) (running : w.exited = false) {listenError : Option NetError}
    (listening : (w.start listenError).socket.isListening = true) :
    Serving (w.start listenError).socket (w.start listenError) := by
  cases listened : w.socket.listen listenError with
  | error e =>
    simp only [start, idle.stopped, listened] at listening
    simp [reportError, idle.notListening] at listening
  | ok s =>
    simp only [start, idle.stopped, listened, Bool.false_eq_true, if_false]
    rw [startAccept_of_listening rfl (listen_listening listened)]
    exact ⟨rfl, rfl, running, by simp [live, idle.noWait, idle.noQueue], by simp [idle.noQueue]⟩

theorem startup_serving {mode : Bool} {addresses : List NetAddress} {os : NetAddress → Attempt}
    {listenError : Option NetError}
    (started : construct.run (roleStartup mode addresses os listenError) = some w)
    (listening : w.socket.isListening = true) : Serving w.socket w := by
  have idle : Idle ({ construct with haproxyMode := mode }.bind os addresses) :=
    Idle.bind (w := { construct with haproxyMode := mode }) ⟨rfl, rfl, rfl, rfl⟩ os addresses
  have first : construct.step (.setHaproxyMode mode) = some { construct with haproxyMode := mode } :=
    rfl
  have second : { construct with haproxyMode := mode }.step (.bind addresses os) =
      some ({ construct with haproxyMode := mode }.bind os addresses) := rfl
  rw [roleStartup, run_cons first, run_cons second] at started
  cases running : ({ construct with haproxyMode := mode }.bind os addresses).exited
  · simp only [run, step, running, Bool.false_eq_true, if_false, Option.bind_some,
      Option.some.injEq] at started
    subst started
    exact idle.serving_of_start running listening
  · simp [run, step, running] at started

theorem Serving.after_complete {s : Socket} (serving : Serving s w) (waiting : 0 < w.pending)
    {c : Completion} (rearms : c.rearms = true) (quiet : c.exits = false) :
    Serving s (w.complete c) := by
  refine ⟨serving.socket, serving.started, serving.running, ?_, fun x mem => ?_⟩
  · have one := serving.one
    simp only [live, complete, List.countP_append, List.countP_cons, List.countP_nil, rearms,
      if_true] at one ⊢
    omega
  · have found : x ∈ w.ready ∨ x = c := by simpa [complete] using mem
    rcases found with mem | rfl
    exacts [serving.quiet x mem, quiet]

theorem Serving.step {s : Socket} {w w' : Acceptor} {e : Event} (listening : s.isListening = true)
    (network : e.isNetwork = true) (serving : Serving s w) (stepped : w.step e = some w') :
    Serving s w' := by
  obtain ⟨-, ⟨_, _, rfl, -⟩ | ⟨_, rfl, -⟩ | ⟨rfl, -⟩ | ⟨_, rfl, -⟩ |
    ⟨_, rfl, waiting, rfl⟩ | ⟨_, rfl, waiting, rfl⟩ | ⟨c, rest, rfl, queued, rfl⟩⟩ :=
    step_cases stepped
  all_goals try simp [Event.isNetwork] at network
  · obtain ⟨socket, started, running, one, quiet⟩ :=
      serving.after_complete waiting (c := .accepted _) rfl rfl
    exact ⟨socket, started, running, one, quiet⟩
  · exact serving.after_complete waiting (c := .failed (.other _)) rfl rfl
  · have head : c.exits = false := serving.quiet c (by simp [queued])
    have opened : w.socket.isOpen = true := by rw [serving.socket]; exact open_of_listening listening
    obtain ⟨socket, started, -, exited, ready⟩ := acceptHandler_frame (w := { w with ready := rest }) c
    refine ⟨socket.trans serving.socket, started.trans serving.started,
      by rw [exited]; simp [serving.running, head], ?_, fun x mem => ?_⟩
    · have parts : live w = live { w with ready := rest } + if c.rearms then 1 else 0 := by
        simp only [live, queued, List.countP_cons]; omega
      rw [live_acceptHandler]
      simpa [serving.started, opened, parts] using serving.one
    · rcases ready x mem with mem | rfl
      exacts [serving.quiet x (by simp [queued, mem]), rfl]

/-- The roles call `bind` and `start()` once and never `stop()`. Once `start()` has the acceptor
listening, every run of the network and the io_context keeps it listening on the same socket
with exactly one accept loop: an accept waits or one handler that will wait again is queued.
The loop never stops, not after a connection whose endpoints cannot be read nor after an error
of `accept`, and it never doubles. -/
theorem startup_keeps_one_loop {mode : Bool} {addresses : List NetAddress}
    {os : NetAddress → Attempt} {listenError : Option NetError} {w w' : Acceptor}
    {events : List Event}
    (started : construct.run (roleStartup mode addresses os listenError) = some w)
    (listening : w.socket.isListening = true) (network : ∀ e ∈ events, e.isNetwork = true)
    (ran : w.run events = some w') :
    w'.socket = w.socket ∧ w'.started = true ∧ w'.exited = false ∧ live w' = 1 := by
  have serving := run_keeps (Serving w.socket) (fun e => e.isNetwork = true)
    (fun net serving stepped => serving.step listening net stepped) network
    (startup_serving started listening) ran
  exact ⟨serving.socket, serving.started, serving.running, serving.one⟩

/-- A connection whose remote endpoint cannot be read, then an `accept` that fails with
`EMFILE`: the client agent's loop goes on. -/
theorem startup_keeps_one_loop_through_errors :
    ∃ w w', construct.run (roleStartup true [⟨"0.0.0.0", 7198⟩] (fun _ => ⟨none, none, none⟩) none) =
        some w ∧ w.socket.isListening = true ∧
      w.run [.accept ⟨none, some ⟨"10.0.0.1", 7198⟩⟩, .runHandler, .acceptFails 24, .runHandler] =
        some w' ∧
      w'.socket = w.socket ∧ w'.started = true ∧ w'.exited = false ∧ live w' = 1 :=
  ⟨_, _, rfl, rfl, rfl, @startup_keeps_one_loop true [⟨"0.0.0.0", 7198⟩]
    (fun _ => ⟨none, none, none⟩) none _ _
    [.accept ⟨none, some ⟨"10.0.0.1", 7198⟩⟩, .runHandler, .acceptFails 24, .runHandler]
    rfl rfl (by decide) rfl⟩

/-- `stop()` closes the socket, which aborts the accepts still waiting, but a handler already
queued with a connection or an error keeps its result and calls `start_accept` when it runs. A
restart (`bind` to an endpoint, then `start()`) begins a new loop beside each such handler: the
acceptor has one accept loop more than the handlers queued at the stop, and a handler that runs
afterwards finds it started and waits for a second connection at once. -/
theorem restart_adds_loop (w : Acceptor) (addr : NetAddress) (os : NetAddress → Attempt)
    (started : w.started = true) (running : w.exited = false)
    (binds : (os addr).outcome addr = (.bound addr, none)) :
    ∃ w', w.run [.stop, .bind [addr] os, .start none] = some w' ∧
      w'.socket = .listening (some addr) ∧ live w' = w.ready.countP Completion.rearms + 1 := by
  have stopped : w.step .stop = some { w with started := false }.close := by
    simp [step, running, stop, started]
  have bound : ({ w with started := false }.close).step (.bind [addr] os) =
      some { { w with started := false }.close with socket := .bound addr } := by
    simp [step, running, close, bind, bindLoop, tryEndpoint, binds]
  rw [run_cons stopped, run_cons bound]
  simp [run, step, running, close, start, Socket.listen, Socket.isOpen, Socket.endpoint, startAccept,
    Socket.isListening, live, List.countP_replicate, Completion.rearms, Nat.add_comm]

/-- A restart with one accepted connection's handler queued at the stop: two loops. -/
theorem restart_adds_loop_after_accept :
    ∃ w, construct.run [.bind [⟨"0.0.0.0", 7198⟩] (fun _ => ⟨none, none, none⟩), .start none,
        .accept ⟨some ⟨"10.0.0.2", 50000⟩, some ⟨"10.0.0.1", 7198⟩⟩] = some w ∧
      ∃ w', w.run [.stop, .bind [⟨"0.0.0.0", 7198⟩] (fun _ => ⟨none, none, none⟩), .start none] =
          some w' ∧
        w'.socket = .listening (some ⟨"0.0.0.0", 7198⟩) ∧
        live w' = w.ready.countP Completion.rearms + 1 :=
  ⟨_, rfl, restart_adds_loop _ ⟨"0.0.0.0", 7198⟩ (fun _ => ⟨none, none, none⟩) rfl rfl rfl⟩

/-- When every endpoint fails to bind, `bind` reports only the last turn's error, and the roles'
`handle_error` ends the process only for `address_in_use` and `address_not_available`. After
any other error of a last turn whose `open` succeeded (`EACCES` for a privileged port, say), the
role goes on to `start()`, which listens on the unbound socket: the kernel binds it to a port of
its own choosing, and the acceptor serves there with an accept waiting. -/
theorem bind_failure_listens_on_kernel_port (mode : Bool) (init : List NetAddress)
    (last : NetAddress) (os : NetAddress → Attempt) (e : NetError)
    (fails : ∀ x ∈ init, ((os x).outcome x).2.isSome)
    (lastTurn : (os last).outcome last = (.opened, some e)) (survives : handleError e = false) :
    ∃ w, construct.run (roleStartup mode (init ++ [last]) os none) = some w ∧
      w.socket = .listening none ∧ w.pending = 1 ∧ w.errors = [e] ∧ w.exited = false := by
  have first : construct.step (.setHaproxyMode mode) = some { construct with haproxyMode := mode } :=
    rfl
  have second : { construct with haproxyMode := mode }.step (.bind (init ++ [last]) os) =
      some ({ { construct with haproxyMode := mode }.close with socket := .opened }.reportError e) := by
    have bound := bind_of_fails (w := { construct with haproxyMode := mode }) os init last fails
    simp only [tryEndpoint, lastTurn] at bound
    rw [← bound]; rfl
  rw [roleStartup, run_cons first, run_cons second]
  simp [run, step, reportError, survives, construct, close, start, Socket.listen, Socket.isOpen,
    Socket.endpoint, startAccept, Socket.isListening]

/-- `bind_address: 0.0.0.0:80` without the privilege to bind it: `EACCES` (13). -/
theorem bind_failure_listens_on_kernel_port_eacces :
    ∃ w, construct.run (roleStartup false ([] ++ [⟨"0.0.0.0", 80⟩])
        (fun _ => ⟨none, none, some (.other 13)⟩) none) = some w ∧
      w.socket = .listening none ∧ w.pending = 1 ∧ w.errors = [.other 13] ∧ w.exited = false :=
  bind_failure_listens_on_kernel_port false [] ⟨"0.0.0.0", 80⟩
    (fun _ => ⟨none, none, some (.other 13)⟩) (.other 13) (by decide) rfl rfl

end Acceptor

end Astron.NetworkAcceptor

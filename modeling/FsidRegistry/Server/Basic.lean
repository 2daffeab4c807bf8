import FsidRegistry.Duration
import FsidRegistry.Listener
import FsidRegistry.Server.Tracker

/-!
Servers: a handler table, a listener, and the tasks at work, which are accept loops, stops, and one task
for each connection. `Server.step?` is one atomic step of one task. What a step finds outside the server
(an accepted stream, what comes of a system call, the clock) is part of its event.

A stop first marks the server as stopping, then closes the listener, waits until no accept loop runs,
and stops each connection that is live then; a graceful stop also waits until none is left.
-/

namespace FsidRegistry

/-- How an accept loop ends. -/
inductive ServeEnd
  /-- The server was stopped. -/
  | closed
  /-- No connection could be accepted. -/
  | failed (error : IoError)
  /-- The loop was abandoned by its caller. -/
  | abandoned
deriving DecidableEq, Inhabited

/-- Where an accept loop stands. -/
inductive ServePhase
  /-- About to enter the tracker. -/
  | entering
  /-- About to freeze the handler table. -/
  | marking
  /-- About to test whether a stop is requested. -/
  | polling
  /-- About to accept. -/
  | accepting
  /-- A connection was accepted; about to track it. -/
  | tracking (stream : SocketId)
  /-- A connection is tracked; about to start its task. -/
  | spawning (id : ConnectionId)
  /-- About to leave the tracker. -/
  | leaving (ending : ServeEnd)
  /-- About to tell those who wait for the loop to end. -/
  | notifying (ending : ServeEnd)
  | ended (ending : ServeEnd)
deriving DecidableEq, Inhabited

/-- What happens in a step of an accept loop. -/
inductive ServeEvent
  | enters
  | marks
  | polls
  | accepts (stream : SocketId)
  | acceptFails (error : IoError)
  | acceptWaits
  | tracks
  | spawns
  /-- The caller abandons the loop while it waits. -/
  | abandons
  | leaves
  | notifies

/-- Where a stop stands. -/
inductive StopPhase
  /-- About to mark the server as stopping. -/
  | marking
  /-- About to tell those who wait. -/
  | notifying
  /-- About to ask the accept loops to end. -/
  | requesting
  /-- About to close the listener. -/
  | closing
  /-- Waiting until no accept loop runs. -/
  | awaitingLoops (wait : Wait)
  /-- About to list the live connections. -/
  | listing
  /-- About to set the shutdown flag of a connection. -/
  | flagging (id : ConnectionId) (rest : List ConnectionId)
  /-- About to shut a connection for reading. -/
  | shutting (id : ConnectionId) (rest : List ConnectionId)
  /-- About to set the token of a connection. -/
  | cancelling (id : ConnectionId) (rest : List ConnectionId)
  /-- About to wait until no connection is left. -/
  | lingering
  /-- Waiting until no connection is left, but not beyond `limit`. -/
  | draining (wait : Wait) (limit : Instant)
  | finished
deriving DecidableEq, Inhabited

/-- A stop of a server. -/
structure Stop where
  /-- Whether requests at work are cancelled rather than waited for. -/
  force : Bool
  /-- How long requests at work are waited for. -/
  timeout : Duration
  /-- What went wrong, in order. -/
  errors : List Error := []
  phase : StopPhase := .marking

instance : Inhabited Stop := ⟨{ force := false, timeout := .zero }⟩

/-- What happens in a step of a stop. -/
inductive StopEvent
  | marks
  | notifies
  | requests
  /-- The listener is closed, where removing its socket file comes to `removal`. -/
  | closes (removal : Listener.Removal)
  /-- A step of waiting. -/
  | waits (event : Wait.Event)
  | lists
  | flags
  | shuts (outcome : Except IoError Unit)
  | cancels
  | lingers (now : Instant)
  | givesUp (now : Instant)

namespace Stop

/-- The phase that turns to the next of the connections to be stopped. -/
def turnTo (force : Bool) : List ConnectionId → StopPhase
  | id :: rest => .flagging id rest
  | [] => if force then .finished else .lingering

/-- The result of a finished stop. -/
def result (s : Stop) : Except Error Unit := Error.merge s.errors

/-- The stop with the errors of one more action. -/
def noting (s : Stop) (outcome : Except IoError Unit) : Stop :=
  match outcome with
  | .ok () => s
  | .error e => { s with errors := s.errors ++ [.io e] }

/-- A stop after those who wait were told. -/
def notify (s : Stop) : Stop :=
  match s.phase with
  | .awaitingLoops w => { s with phase := .awaitingLoops w.notify }
  | .draining w limit => { s with phase := .draining w.notify limit }
  | _ => s

end Stop

/-- A server with handlers of type `η`. -/
structure Server (η : Type) where
  listener : Listener
  handlers : HandlerTable η := ∅
  /-- Whether an accept loop has started. From then on the handler table is frozen. -/
  serving : Bool := false
  /-- Whether accept loops are asked to end. -/
  stopRequested : Bool := false
  /-- The number given last to a connection. -/
  lastId : ConnectionId := 0
  tracker : Tracker := {}
  connections : Dictionary ConnectionId (Connection η) := ∅
  /-- The accept loops, by the order of their start. -/
  serves : Dictionary Nat ServePhase := ∅
  /-- The stops, by the order of their start. -/
  stops : Dictionary Nat Stop := ∅
deriving Inhabited

/-- A step of a server. -/
inductive ServerEvent
  /-- An accept loop is started. -/
  | beginServe
  | serve (loop : Nat) (event : ServeEvent)
  /-- A step of a connection's task up to its end. -/
  | connection (id : ConnectionId) (event : ConnectionEvent)
  /-- A connection that has ended leaves the tracker. -/
  | untracks (id : ConnectionId)
  /-- A connection that has left the tracker tells those who wait. -/
  | announces (id : ConnectionId)
  /-- A stop is started. -/
  | beginStop (force : Bool) (timeout : Duration)
  | stop (number : Nat) (event : StopEvent)

namespace Server

variable {η : Type}

/-- Registers a handler for a verb. -/
def register (s : Server η) (verb : String) (handler : η) : Except Fault (Server η) :=
  (s.handlers.register s.serving verb handler).map fun handlers => { s with handlers }

/-- How many connections are live. -/
def liveCount (s : Server η) : Nat := s.tracker.live.length

/-- Tells all stops that wait for the tracker to change. -/
def notifyAll (s : Server η) : Server η := { s with stops := s.stops.map Stop.notify }

/-- Moves an accept loop on. -/
def setServe (s : Server η) (loop : Nat) (phase : ServePhase) : Server η :=
  { s with serves := s.serves.insert loop phase }

/-- The server after a step of an accept loop that stands at a phase. -/
def serveStep? (s : Server η) (loop : Nat) : ServePhase → ServeEvent → Option (Server η)
  | .entering, .enters =>
    match s.tracker.startListening? with
    | some tracker => some ({ s with tracker }.setServe loop .marking)
    | none => some (s.setServe loop (.ended .closed))
  | .marking, .marks => some ({ s with serving := true }.setServe loop .polling)
  | .polling, .polls =>
    some (s.setServe loop (if s.stopRequested then .leaving .closed else .accepting))
  | .accepting, .accepts stream => some (s.setServe loop (.tracking stream))
  | .accepting, .acceptFails e => some (s.setServe loop (.leaving (.failed e)))
  | .accepting, .acceptWaits => some (s.setServe loop .polling)
  | .polling, .abandons => some (s.setServe loop (.leaving .abandoned))
  | .tracking stream, .tracks =>
    let id := s.lastId + 1
    let s := { s with lastId := id }
    match s.tracker.track? id with
    | some tracker =>
      some ({ s with tracker, connections := s.connections.insert id { stream } }.setServe loop
        (.spawning id))
    | none => some (s.setServe loop (.leaving .closed))
  | .spawning id, .spawns =>
    some ({ s with connections := s.connections.modify id ({ · with phase := .testing }) }.setServe
      loop .polling)
  | .leaving ending, .leaves =>
    some ({ s with tracker := s.tracker.stopListening }.setServe loop (.notifying ending))
  | .notifying ending, .notifies => some (s.notifyAll.setServe loop (.ended ending))
  | _, _ => none

/-- Replaces a stop. -/
def setStop (s : Server η) (number : Nat) (stop : Stop) : Server η :=
  { s with stops := s.stops.insert number stop }

/-- Moves a stop on to a phase. -/
def advanceStop (s : Server η) (number : Nat) (stop : Stop) (phase : StopPhase) : Server η :=
  s.setStop number { stop with phase }

/-- The server after a step of a stop. -/
def stopStep? (s : Server η) (number : Nat) (stop : Stop) : StopEvent → Option (Server η)
  | .marks => match stop.phase with
    | .marking =>
      some ({ s with tracker := s.tracker.beginShutdown }.advanceStop number stop .notifying)
    | _ => none
  | .notifies => match stop.phase with
    | .notifying => some (s.notifyAll.advanceStop number stop .requesting)
    | _ => none
  | .requests => match stop.phase with
    | .requesting => some ({ s with stopRequested := true }.advanceStop number stop .closing)
    | _ => none
  | .closes removal => match stop.phase with
    | .closing =>
      let (result, listener) := s.listener.release removal
      some ({ s with listener }.advanceStop number (stop.noting result)
        (.awaitingLoops .registering))
    | _ => none
  | .waits event => match stop.phase with
    | .awaitingLoops w =>
      (w.step? (!s.tracker.listening) event).map fun
        | some w => s.advanceStop number stop (.awaitingLoops w)
        | none => s.advanceStop number stop .listing
    | .draining w limit =>
      (w.step? s.tracker.live.isEmpty event).map fun
        | some w => s.advanceStop number stop (.draining w limit)
        | none => s.advanceStop number stop .finished
    | _ => none
  | .lists => match stop.phase with
    | .listing => some (s.advanceStop number stop (Stop.turnTo stop.force s.tracker.live))
    | _ => none
  | .flags => match stop.phase with
    | .flagging id rest =>
      some ({ s with connections := s.connections.modify id ({ · with inShutdown := true }) }.advanceStop
        number stop (.shutting id rest))
    | _ => none
  | .shuts outcome => match stop.phase with
    | .shutting id rest =>
      some (s.advanceStop number (stop.noting outcome)
        (if stop.force then .cancelling id rest else Stop.turnTo false rest))
    | _ => none
  | .cancels => match stop.phase with
    | .cancelling id rest =>
      some ({ s with connections := s.connections.modify id ({ · with cancelled := true }) }.advanceStop
        number stop (Stop.turnTo true rest))
    | _ => none
  | .lingers now => match stop.phase with
    | .lingering =>
      some (s.advanceStop number stop (.draining .registering (now + stop.timeout.nanos)))
    | _ => none
  | .givesUp now => match stop.phase with
    | .draining (.parked _) limit =>
      if limit ≤ now then some (s.advanceStop number stop .finished) else none
    | _ => none

/-- The server after a step, if it can make it. -/
def step? (s : Server η) : ServerEvent → Option (Server η)
  | .beginServe => some (s.setServe s.serves.size .entering)
  | .serve loop event => (s.serves.get? loop).bind fun phase => s.serveStep? loop phase event
  | .connection id event =>
    (s.connections.get? id).bind fun c => (c.step? s.handlers event).map fun c =>
      { s with connections := s.connections.insert id c }
  | .untracks id =>
    (s.connections.get? id).bind fun c => match c.phase with
      | .untracking => some
        { s with
          tracker := s.tracker.untrack id
          connections := s.connections.insert id { c with phase := .notifying } }
      | _ => none
  | .announces id =>
    (s.connections.get? id).bind fun c => match c.phase with
      | .notifying => some
        { s with connections := s.connections.insert id { c with phase := .ended } }.notifyAll
      | _ => none
  | .beginStop force timeout => some (s.setStop s.stops.size { force, timeout })
  | .stop number event => (s.stops.get? number).bind fun stop => s.stopStep? number stop event

end Server

end FsidRegistry

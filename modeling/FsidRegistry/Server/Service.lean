import FsidRegistry.Cache.Worker
import FsidRegistry.Command
import FsidRegistry.Outcome
import FsidRegistry.Server.Basic

/-!
Services: a server at work on a host, whose handlers ask a shared cache over a store. `Service.step?` lets
one task make one step, and `Service.settle` lets all of them go on until each waits for a packet, a
release or the clock. `Service.await` waits for something to happen, and moves the clock where only the
clock can bring it about.
-/

namespace FsidRegistry

/-- What a handler does. -/
inductive Handler
  | command (command : Command)
  /-- Returns the same result for every argument. -/
  | reply (result : Except Error String)
  /-- Returns its argument. -/
  | echo
  /-- Returns its argument once it is released. -/
  | held
  /-- Waits for the token of its connection, and is cancelled then. -/
  | untilCancelled
deriving Inhabited

/-- The record of a request that a command has finished. -/
structure FinishedRequest where
  command : Command
  outcome : Outcome
  retries : UInt32

/-- A server at work. -/
structure Service where
  server : Server Handler
  host : Host
  backend : Backend
  policy : Retry.Policy := {}
  /-- How the pauses between attempts are drawn. -/
  draw : Retry.Backoff → Nat := Retry.Backoff.largestPause
  now : Instant
  /-- The cache calls of the commands at work. -/
  workers : Dictionary ConnectionId Worker := ∅
  /-- The connections whose requests are held, the longest held first. -/
  holding : List ConnectionId := []
  /-- How many more requests may be released. -/
  releases : Nat := 0
  /-- The records of finished requests, newest first. -/
  finished : List FinishedRequest := []

namespace Service

/-- A service over a server that handles no verb yet. -/
def start (listener : Listener) (host : Host) (backend : Backend) (now : Instant) : Service :=
  { server := { listener }, host, backend, now }

/-- Registers the handler of a verb. -/
def register (s : Service) (verb : String) (handler : Handler) : Except Fault Service :=
  (s.server.register verb handler).map fun server => { s with server }

/-- Registers all commands that can be registered. -/
def registerCommands (s : Service) : Service :=
  Command.all.foldl (fun s c => (s.register c.verb (.command c)).toOption.getD s) s

/-- The service after a step of its server. -/
def advance? (s : Service) (event : ServerEvent) : Option Service :=
  (s.server.step? event).map fun server => { s with server }

/-- Closes a socket of the host. -/
def closeSocket (s : Service) (id : SocketId) : Service :=
  { s with host := s.host.closeSocket id }

/-- A step of an accept loop. It waits while nobody connects and no stop is requested. -/
def serveStep? (s : Service) (loop : Nat) (phase : ServePhase) : Option Service :=
  let step (e : ServeEvent) := s.advance? (.serve loop e)
  match phase with
  | .entering => step .enters
  | .marking => step .marks
  | .polling =>
    if s.server.stopRequested || s.host.isAcceptable s.server.listener.socket then step .polls
    else none
  | .accepting =>
    match s.host.accept s.server.listener.socket with
    | (.connection stream, host) => { s with host }.advance? (.serve loop (.accepts stream))
    | (.wouldBlock, _) => step .acceptWaits
    | (.failed e, _) => step (.acceptFails (.system e))
  | .tracking stream =>
    (step .tracks).map fun t => if s.server.tracker.inShutdown then t.closeSocket stream else t
  | .spawning _ => step .spawns
  | .leaving _ => step .leaves
  | .notifying _ => step .notifies
  | .ended _ => none

/-- A step of waiting. -/
def waitEvent? : Wait → Option Wait.Event
  | .registering => some .registers
  | .checking _ => some .checks
  | .parked true => some .wakes
  | .parked false => none

/-- A step of a stop. It waits while an accept loop runs or, until its limit, while connections are
left. -/
def stopStep? (s : Service) (number : Nat) (stop : Stop) : Option Service :=
  let step (e : StopEvent) := s.advance? (.stop number e)
  match stop.phase with
  | .marking => step .marks
  | .notifying => step .notifies
  | .requesting => step .requests
  | .closing =>
    let listener := s.server.listener
    let (removal, host) := listener.removal s.host
    { s with host := host.shutdownListening listener.socket }.advance? (.stop number (.closes removal))
  | .awaitingLoops w => (waitEvent? w).bind fun e => step (.waits e)
  | .listing => step .lists
  | .flagging .. => step .flags
  | .shutting id _ =>
    let host := match s.server.connections.get? id with
      | some c => s.host.shutdownEndpoint c.stream true false
      | none => s.host
    { s with host }.advance? (.stop number (.shuts (.ok ())))
  | .cancelling .. => step .cancels
  | .lingering => step (.lingers s.now)
  | .draining w limit =>
    match waitEvent? w with
    | some e => step (.waits e)
    | none => if limit ≤ s.now then step (.givesUp s.now) else none
  | .finished => none

/-- The service once the handler at work for a connection has returned. -/
def answer? (s : Service) (id : ConnectionId) (result : Except Error String) : Option Service :=
  s.advance? (.connection id (.answers result))

/-- The service once a command has returned, with its end recorded. -/
def finish? (s : Service) (id : ConnectionId) (command : Command) (retries : UInt32)
    (result : Except Error String) : Option Service :=
  let finished := if command.isRecorded then ⟨command, .of result, retries⟩ :: s.finished
    else s.finished
  { s with finished, workers := s.workers.erase id }.answer? id result

/-- A step of a command's cache call. -/
def workerStep? (s : Service) (id : ConnectionId) (c : Connection Handler) (command : Command)
    (w : Worker) : Option Service :=
  match w.call.phase with
  | .finished result => s.finish? id command (Retry.retriesOf w.call.attempts) (command.finish result)
  | .faulted _ => { s with workers := s.workers.erase id }.advance? (.connection id .faults)
  | _ =>
    (w.step? s.draw ⟨s.now, c.cancelled⟩ s.backend).map fun (w, backend, at_) =>
      let connections := s.server.connections.insert id { c with cancelled := at_.cancelled }
      { s with backend, workers := s.workers.insert id w, server := { s.server with connections } }

/-- A step of the handler at work for a connection. -/
def handlerStep? (s : Service) (id : ConnectionId) (c : Connection Handler) (argument : String) :
    Handler → Option Service
  | .command command =>
    match s.workers.get? id with
    | some w => s.workerStep? id c command w
    | none =>
      match command.start argument with
      | .error result => s.finish? id command 0 result
      | .ok request =>
        some { s with workers := s.workers.insert id { call := .begin s.policy request } }
  | .reply result => s.answer? id result
  | .echo => s.answer? id (.ok argument)
  | .held =>
    if !s.holding.contains id then some { s with holding := s.holding ++ [id] }
    else if s.releases == 0 || s.holding.head? != some id then none
    else { s with releases := s.releases - 1, holding := s.holding.tail }.answer? id (.ok argument)
  | .untilCancelled => if c.cancelled then s.answer? id (.error .cancelled) else none

/-- A step of a connection's task. It waits for packets and for its handler. -/
def connectionStep? (s : Service) (id : ConnectionId) (c : Connection Handler) : Option Service :=
  let step (e : ConnectionEvent) := s.advance? (.connection id e)
  match c.phase with
  | .created | .ended | .faulted => none
  | .testing => step .tests
  | .polling => if c.cancelled || s.host.isReadable c.stream then step .polls else none
  | .receiving =>
    match s.host.receive c.stream (packetLimit + 1) with
    | (.packet p, host) => { s with host }.advance? (.connection id (.receives p))
    | (.wouldBlock, _) => step .receiveWaits
    | (.failed _, host) => { s with host }.advance? (.connection id .receiveFails)
  | .handling handler argument => s.handlerStep? id c argument handler
  | .writing response =>
    let (sent, host) := s.host.send c.stream response
    { s with host }.advance? <| .connection id <| match sent with
      | .ok bytes => .writes bytes
      | .error _ => .writeFails
  | .flagging => step .flags
  | .shutting =>
    { s with host := s.host.shutdownEndpoint c.stream true false }.advance? (.connection id .shuts)
  | .cancelling => step .cancels
  | .untracking => s.advance? (.untracks id)
  | .notifying => (s.advance? (.announces id)).map (·.closeSocket c.stream)

/-- A step of the first task that can make one. -/
def step? (s : Service) : Option Service :=
  (s.server.serves.entries.findSome? fun (loop, phase) => s.serveStep? loop phase) <|>
  (s.server.stops.entries.findSome? fun (number, stop) => s.stopStep? number stop) <|>
  s.server.connections.entries.findSome? fun (id, c) => s.connectionStep? id c

/-- Lets the tasks go on for at most `fuel` steps. -/
def run : Nat → Service → Service
  | 0, s => s
  | fuel + 1, s =>
    match s.step? with
    | some s => run fuel s
    | none => s

/-- The most steps between two events outside the service. -/
def stepLimit : Nat := 1000000

/-- Lets the tasks go on until each of them waits. -/
def settle (s : Service) : Service := s.run stepLimit

/-- The instants that tasks wait for. -/
def dueInstants (s : Service) : List Instant :=
  s.workers.entries.filterMap (fun (_, w) => w.dueAt?) ++
  s.server.stops.entries.filterMap fun (_, stop) => match stop.phase with
    | .draining _ limit => some limit
    | _ => none

/-- Moves the clock to the next instant that a task waits for. -/
def moveClock? (s : Service) : Option Service :=
  ((s.dueInstants.filter (s.now < ·)).min?).map fun now => { s with now }

/-- Waits until `look` finds something, for at most `fuel` moves of the clock. -/
def awaitFor {α : Type} (look : Service → Option (α × Service)) :
    Nat → Service → Option α × Service
  | 0, s => (none, s)
  | fuel + 1, s =>
    let s := s.settle
    match look s with
    | some (x, s) => (some x, s)
    | none =>
      match s.moveClock? with
      | some s => awaitFor look fuel s
      | none => (none, s)

/-- Waits until `look` finds something. Nothing is returned if it never will. -/
def await {α : Type} (look : Service → Option (α × Service)) (s : Service) : Option α × Service :=
  s.awaitFor look stepLimit

/-- Starts an accept loop; returns its number. -/
def beginServe (s : Service) : Nat × Service :=
  (s.server.serves.size, ((s.advance? .beginServe).getD s))

/-- How an accept loop ended. -/
def serveEnd? (s : Service) (loop : Nat) : Option ServeEnd :=
  match s.server.serves.get? loop with
  | some (.ended ending) => some ending
  | _ => none

/-- Abandons an accept loop. -/
def abandonServe (s : Service) (loop : Nat) : Service :=
  ((s.advance? (.serve loop .abandons)).getD s).settle

/-- Starts a stop; returns its number. -/
def beginStop (s : Service) (force : Bool) (timeout : Duration) : Nat × Service :=
  (s.server.stops.size, ((s.advance? (.beginStop force timeout)).getD s))

/-- The result of a stop, once it is finished. -/
def stopResult? (s : Service) (number : Nat) : Option (Except Error Unit) :=
  match s.server.stops.get? number with
  | some stop => if stop.phase = .finished then some stop.result else none
  | none => none

/-- Waits for a stop to finish. -/
def awaitStop (s : Service) (number : Nat) : Option (Except Error Unit) × Service :=
  s.await fun s => (s.stopResult? number).map (·, s)

/-- Whether an accept loop or a stop is at work. -/
def isBusy (s : Service) : Bool :=
  s.server.serves.entries.any (fun (_, phase) => !(phase matches .ended _)) ||
  s.server.stops.entries.any fun (_, stop) => stop.phase ≠ .finished

/-- Connects a client to the server's socket. -/
def connect (s : Service) (path : String) : Except Errno SocketId × Service :=
  match s.host.connect path with
  | .ok (client, host) => (.ok client, { s with host }.settle)
  | .error e => (.error e, s)

/-- Hangs a client up. -/
def hangUp (s : Service) (client : SocketId) : Service := (s.closeSocket client).settle

/-- Sends a packet of a client. -/
def send (s : Service) (client : SocketId) (packet : ByteArray) : Except Errno Nat × Service :=
  let (r, host) := s.host.send client packet
  (r, { s with host }.settle)

/-- What a client gets. -/
inductive Reply
  | packet (bytes : ByteArray)
  | closed

/-- What a client gets next, if anything has come. All packets come before the end of the connection. -/
def reply? (s : Service) (client : SocketId) : Option (Reply × Service) :=
  match s.host.endpoint? client with
  | none => some (.closed, s)
  | some e =>
    match e.inbox with
    | p :: rest =>
      some (.packet p, { s with host := s.host.setSocket client (.endpoint { e with inbox := rest }) })
    | [] => if e.reset || e.readShut then some (.closed, s) else none

/-- Waits for what a client gets next. -/
def awaitReply (s : Service) (client : SocketId) : Option Reply × Service :=
  s.await (·.reply? client)

/-- Sends a packet of a client and waits for what the client gets. Nothing comes after a packet that
could not be sent. -/
def request (s : Service) (client : SocketId) (packet : ByteArray) :
    (Except Errno Nat × Option Reply) × Service :=
  match s.send client packet with
  | (.ok n, s) => let (r, s) := s.awaitReply client; ((.ok n, r), s)
  | (.error e, s) => ((.error e, none), s)

/-- Lets `n` new clients send a packet at once, and returns what each of them gets. -/
def race (s : Service) (path : String) (n : Nat) (packet : ByteArray) :
    List (Option Reply) × Service :=
  let connect (_ : Nat) : StateM Service (Option SocketId) := fun s =>
    let (r, s) := s.connect path
    (r.toOption, s)
  let (clients, s) := ((List.range n).filterMapM connect).run s
  let host := clients.foldl (fun h c => (h.send c packet).2) s.host
  let await (c : SocketId) : StateM Service (Option Reply) := fun s => s.awaitReply c
  let (replies, s) := (clients.mapM await).run { s with host }
  (replies, clients.foldl hangUp s)

/-- Takes the log of the store's calls and the records of finished requests, oldest first. -/
def takeRecords (s : Service) : (List String × List FinishedRequest) × Service :=
  let (calls, store) := s.backend.store.takeLog
  ((calls, s.finished.reverse), { s with finished := [], backend := { s.backend with store } })

/-- Lets one more held request be released. -/
def release (s : Service) : Service := { s with releases := s.releases + 1 }.settle

end Service

end FsidRegistry

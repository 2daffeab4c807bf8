import FsidRegistry.Proofs.Cache.Shared
import FsidRegistry.Proofs.Server.Drain
import FsidRegistry.Proofs.Service.Turn

/-!
# The tasks of a service, in any order

`Service.step?` lets the first task go that can.  Here any task may go first: the accept loops, the
stops and the connections of a service make their steps in any order, and in between clients and the
clock do what they like.

* `Service.Acts`: a step of any task.
* `Service.Serves`, `Service.serves_of_serveStep?`: all that a step of an accept loop can do.
* `Service.Task`, `Service.task_of_connectionStep?`: all that a step of a connection's task can do
  where the handlers are commands.
-/

namespace FsidRegistry

/-- An event that an accept loop brings about whatever the host says. -/
def ServeEvent.isOwn : ServeEvent → Bool
  | .accepts _ | .acceptFails _ | .abandons => false
  | _ => true

namespace Service

variable {s t : Service} {id : ConnectionId} {c : Connection Handler}

/-! ## Steps -/

/-- A task of a service makes a step. -/
inductive Acts (s : Service) : Service → Prop
  | serves (loop : Nat) (phase : ServePhase) (t : Service)
      (hp : s.server.serves.get? loop = some phase) (h : s.serveStep? loop phase = some t) : Acts s t
  | stops (number : Nat) (stop : Stop) (t : Service)
      (hs : s.server.stops.get? number = some stop) (h : s.stopStep? number stop = some t) : Acts s t
  | connects (id : ConnectionId) (c : Connection Handler) (t : Service)
      (hc : s.server.connections.get? id = some c) (h : s.connectionStep? id c = some t) : Acts s t

/-- The first task that can make a step is a task. -/
theorem acts_of_step? (h : s.step? = some t) : Acts s t := by
  rw [step?_eq_or] at h
  obtain h | ⟨-, h⟩ := Option.or_eq_some_iff.mp h
  · obtain ⟨⟨loop, phase⟩, he, hstep⟩ := List.exists_of_findSome?_eq_some h
    exact .serves loop phase t (Dictionary.mem_entries_iff.mp he) hstep
  obtain h | ⟨-, h⟩ := Option.or_eq_some_iff.mp h
  · obtain ⟨⟨number, stop⟩, he, hstep⟩ := List.exists_of_findSome?_eq_some h
    exact .stops number stop t (Dictionary.mem_entries_iff.mp he) hstep
  · obtain ⟨⟨id, c⟩, he, hstep⟩ := List.exists_of_findSome?_eq_some h
    exact .connects id c t (Dictionary.mem_entries_iff.mp he) hstep

/-- Where no step is made, no accept loop and no connection can make one. -/
theorem rests_of_step? (h : s.step? = none) :
    (∀ loop phase, s.server.serves.get? loop = some phase → s.serveStep? loop phase = none) ∧
      ∀ id c, s.server.connections.get? id = some c → s.connectionStep? id c = none := by
  rw [step?_eq_or] at h
  obtain ⟨hserve, h⟩ := Option.or_eq_none_iff.mp h
  obtain ⟨-, hconnection⟩ := Option.or_eq_none_iff.mp h
  constructor
  · intro loop phase hp
    exact List.findSome?_eq_none_iff.mp hserve (loop, phase) (Dictionary.mem_entries_iff.mpr hp)
  · intro id c hc
    exact List.findSome?_eq_none_iff.mp hconnection (id, c) (Dictionary.mem_entries_iff.mpr hc)

/-! ## Steps of accept loops and stops -/

/-- What a step of an accept loop does. -/
inductive Serves (s : Service) (loop : Nat) (phase : ServePhase) : Service → Prop
  /-- It moves on. -/
  | goes (e : ServeEvent) (server : Server Handler) (hstep : s.server.ServeStep loop phase e server)
      (he : e.isOwn = true) : Serves s loop phase { s with server }
  /-- It accepts a client. -/
  | takes (stream : SocketId) (host : Host) (hphase : phase = .accepting)
      (ha : s.host.accept s.server.listener.socket = (.connection stream, host)) :
    Serves s loop phase { s with host, server := s.server.setServe loop (.tracking stream) }
  /-- It cannot accept. -/
  | fails (errno : Errno) (host : Host) (hphase : phase = .accepting)
      (ha : s.host.accept s.server.listener.socket = (.failed errno, host)) :
    Serves s loop phase
      { s with server := s.server.setServe loop (.leaving (.failed (.system errno))) }
  /-- It turns a client away, since the server stops. -/
  | turnsAway (stream : SocketId) (server : Server Handler) (hphase : phase = .tracking stream)
      (hs : s.server.tracker.inShutdown = true)
      (hstep : s.server.ServeStep loop phase .tracks server) :
    Serves s loop phase { s with host := s.host.closeSocket stream, server }

theorem advance?_serve_eq_some {loop : Nat} {phase : ServePhase} {e : ServeEvent}
    (hp : s.server.serves.get? loop = some phase) (h : s.advance? (.serve loop e) = some t) :
    ∃ server, s.server.ServeStep loop phase e server ∧ t = { s with server } := by
  obtain ⟨server, hserver, rfl⟩ := Option.map_eq_some_iff.mp h
  unfold Server.step? at hserver
  dsimp only at hserver
  rw [hp, Option.bind_some] at hserver
  exact ⟨server, Server.serveStep?_eq_some_iff.mp hserver, rfl⟩

/-- **All that a step of an accept loop can do.** -/
theorem serves_of_serveStep? {loop : Nat} {phase : ServePhase}
    (hp : s.server.serves.get? loop = some phase) (h : s.serveStep? loop phase = some t) :
    Serves s loop phase t := by
  -- The steps of the loop that leave the host alone.
  have hgoes : ∀ {e : ServeEvent}, e.isOwn = true →
      s.advance? (.serve loop e) = some t → Serves s loop phase t := by
    intro e he h
    obtain ⟨server, hstep, rfl⟩ := advance?_serve_eq_some hp h
    exact .goes e server hstep he
  unfold Service.serveStep? at h
  dsimp only at h
  cases phase with
  | entering | marking | spawning | leaving | notifying => exact hgoes rfl h
  | ended => cases h
  | polling =>
    dsimp only at h
    split at h
    · exact hgoes rfl h
    · cases h
  | accepting =>
    dsimp only at h
    split at h
    · rename_i stream host ha
      obtain ⟨server, hstep, rfl⟩ := advance?_serve_eq_some (s := { s with host }) hp h
      cases hstep
      exact .takes stream host rfl ha
    · exact hgoes rfl h
    · rename_i errno host ha
      obtain ⟨server, hstep, rfl⟩ := advance?_serve_eq_some hp h
      cases hstep
      exact .fails errno host rfl ha
  | tracking stream =>
    obtain ⟨u, hu, rfl⟩ := Option.map_eq_some_iff.mp h
    obtain ⟨server, hstep, rfl⟩ := advance?_serve_eq_some hp hu
    split
    · rename_i hs
      exact .turnsAway stream server rfl hs hstep
    · exact .goes .tracks server hstep rfl

theorem advance?_stop_eq_some {number : Nat} {stop : Stop} {e : StopEvent}
    (hs : s.server.stops.get? number = some stop) (h : s.advance? (.stop number e) = some t) :
    ∃ server, s.server.StopStep number stop e server ∧ t = { s with server } := by
  obtain ⟨server, hserver, rfl⟩ := Option.map_eq_some_iff.mp h
  unfold Server.step? at hserver
  dsimp only at hserver
  rw [hs, Option.bind_some] at hserver
  exact ⟨server, Server.stopStep?_eq_some_iff.mp hserver, rfl⟩

/-- A step of a stop is a step of the server, beside which only the host may change. -/
theorem stop_of_stopStep? {number : Nat} {stop : Stop}
    (hs : s.server.stops.get? number = some stop) (h : s.stopStep? number stop = some t) :
    ∃ e server host, s.server.StopStep number stop e server ∧ t = { s with server, host } := by
  have hgoes : ∀ {e : StopEvent} {host : Host},
      { s with host }.advance? (.stop number e) = some t →
        ∃ e server host, s.server.StopStep number stop e server ∧ t = { s with server, host } := by
    intro e host h
    obtain ⟨server, hstep, rfl⟩ := advance?_stop_eq_some (s := { s with host }) hs h
    exact ⟨e, server, host, hstep, rfl⟩
  unfold Service.stopStep? at h
  dsimp only at h
  split at h
  case h_5 =>
    obtain ⟨e, _, h⟩ := Option.bind_eq_some_iff.mp h
    exact hgoes h
  case h_11 =>
    split at h
    · exact hgoes h
    · split at h
      · exact hgoes h
      · cases h
  case h_12 => cases h
  all_goals exact hgoes h

/-! ## Steps of a connection's task -/

/-- How a command at work for a connection has ended. -/
inductive Outcome (s : Service) (id : ConnectionId) (command : Command) (argument : String) :
    Except Error String → Prop
  /-- It needed no call of the cache. -/
  | atOnce (result : Except Error String) (hw : s.workers.get? id = none)
      (hs : command.start argument = .error result) : Outcome s id command argument result
  | called (w : Worker) (result : Except Error (Option Pair)) (hw : s.workers.get? id = some w)
      (hp : w.call.phase = .finished result) :
    Outcome s id command argument (command.finish result)

/-- What a step of a connection's task does. -/
inductive Task (s : Service) (id : ConnectionId) (c : Connection Handler) : Service → Prop
  /-- No request is at work, before the step. -/
  | goes (e : ConnectionEvent) (d : Connection Handler) (host : Host)
      (hstep : c.Step s.server.handlers e d)
      (hphase : ∀ handler argument, c.phase ≠ .handling handler argument)
      (hhost : s.host.Beside host) :
    Task s id c { s with host, server := withConnection s.server id d }
  | untracks (hphase : c.phase = .untracking) :
    Task s id c { s with server := { withConnection s.server id { c with phase := .notifying } with
      tracker := s.server.tracker.untrack id } }
  | announces (hphase : c.phase = .notifying) :
    Task s id c { s with
      host := s.host.closeSocket c.stream
      server := (withConnection s.server id { c with phase := .ended }).notifyAll }
  /-- A command starts its call of the cache. -/
  | begins (command : Command) (argument : String) (request : CacheRequest)
      (hphase : c.phase = .handling (.command command) argument)
      (hw : s.workers.get? id = none) (hs : command.start argument = .ok request) :
    Task s id c { s with workers := s.workers.insert id { call := .begin s.policy request } }
  | works (command : Command) (argument : String) (w w' : Worker) (backend : Backend)
      (at_ : Surroundings) (hphase : c.phase = .handling (.command command) argument)
      (hw : s.workers.get? id = some w)
      (hstep : w.step? s.draw ⟨s.now, c.cancelled⟩ s.backend = some (w', backend, at_)) :
    Task s id c { s with
      backend
      workers := s.workers.insert id w'
      server := withConnection s.server id { c with cancelled := at_.cancelled } }
  | finishes (command : Command) (argument : String) (result : Except Error String)
      (finished : List FinishedRequest)
      (hphase : c.phase = .handling (.command command) argument)
      (hresult : Outcome s id command argument result) :
    Task s id c { s with
      finished
      workers := s.workers.erase id
      server := withConnection s.server id
        { c with phase := .writing (Text.encode (Response.ofResult result).text) } }
  | faults (command : Command) (argument : String) (w : Worker) (fault : Fault)
      (hphase : c.phase = .handling (.command command) argument) (hw : s.workers.get? id = some w)
      (hp : w.call.phase = .faulted fault) :
    Task s id c { s with
      workers := s.workers.erase id
      server := withConnection s.server id { c with phase := .faulted } }

theorem advance?_connection_eq_some {e : ConnectionEvent}
    (hc : s.server.connections.get? id = some c) (h : s.advance? (.connection id e) = some t) :
    ∃ d, c.Step s.server.handlers e d ∧ t = { s with server := withConnection s.server id d } := by
  obtain ⟨server, hserver, rfl⟩ := Option.map_eq_some_iff.mp h
  unfold Server.step? at hserver
  dsimp only at hserver
  rw [hc, Option.bind_some] at hserver
  obtain ⟨d, hd, rfl⟩ := Option.map_eq_some_iff.mp hserver
  exact ⟨d, Connection.step?_eq_some_iff.mp hd, rfl⟩

/-- The end of a command is the end of its task's handling. -/
theorem task_of_finish? {command : Command} {argument : String} {retries : UInt32}
    {result : Except Error String} (hc : s.server.connections.get? id = some c)
    (hphase : c.phase = .handling (.command command) argument)
    (hresult : Outcome s id command argument result)
    (h : s.finish? id command retries result = some t) : Task s id c t := by
  unfold finish? answer? at h
  dsimp only at h
  obtain ⟨d, hd, rfl⟩ := advance?_connection_eq_some (s := { s with
    finished := if command.isRecorded then ⟨command, .of result, retries⟩ :: s.finished
      else s.finished
    workers := s.workers.erase id }) hc h
  cases hd with
  | answers => exact .finishes command argument result _ hphase hresult

theorem task_of_workerStep? {command : Command} {argument : String} {w : Worker}
    (hc : s.server.connections.get? id = some c)
    (hphase : c.phase = .handling (.command command) argument) (hw : s.workers.get? id = some w)
    (h : s.workerStep? id c command w = some t) : Task s id c t := by
  unfold workerStep? at h
  split at h
  · rename_i result hp
    exact task_of_finish? hc hphase (.called w result hw hp) h
  · rename_i fault hp
    obtain ⟨d, hd, rfl⟩ :=
      advance?_connection_eq_some (s := { s with workers := s.workers.erase id }) hc h
    cases hd with
    | faults => exact .faults command argument w fault hphase hw hp
  · obtain ⟨⟨w', backend, at_⟩, hstep, rfl⟩ := Option.map_eq_some_iff.mp h
    exact .works command argument w w' backend at_ hphase hw hstep

theorem task_of_command {command : Command} {argument : String}
    (hc : s.server.connections.get? id = some c)
    (hphase : c.phase = .handling (.command command) argument)
    (h : s.handlerStep? id c argument (.command command) = some t) : Task s id c t := by
  unfold handlerStep? at h
  dsimp only at h
  cases hw : s.workers.get? id with
  | some w =>
    rw [hw] at h
    exact task_of_workerStep? hc hphase hw h
  | none =>
    rw [hw] at h
    dsimp only at h
    cases hs : command.start argument with
    | error result =>
      rw [hs] at h
      exact task_of_finish? hc hphase (.atOnce result hw hs) h
    | ok request =>
      rw [hs] at h
      cases h
      exact .begins command argument request hphase hw hs

/-- **All that a step of a connection's task can do**, where the handlers are commands. -/
theorem task_of_connectionStep? (hc : s.server.connections.get? id = some c)
    (hcommand : ∀ handler argument, c.phase = .handling handler argument →
      ∃ command, handler = .command command) (h : s.connectionStep? id c = some t) :
    Task s id c t := by
  -- The steps of the loop itself, where the host may have changed before.
  have hgoes : ∀ {e : ConnectionEvent} {host : Host}, s.host.Beside host →
      (∀ handler argument, c.phase ≠ .handling handler argument) →
      { s with host }.advance? (.connection id e) = some t → Task s id c t := by
    intro e host hhost hphase h
    obtain ⟨d, hd, rfl⟩ := advance?_connection_eq_some (s := { s with host }) hc h
    exact .goes e d host hd hphase hhost
  unfold connectionStep? at h
  dsimp only at h
  cases hphase : c.phase with
  | created | ended | faulted =>
    rw [hphase] at h
    cases h
  | testing | flagging | cancelling =>
    rw [hphase] at h
    exact hgoes .refl (by rw [hphase]; rintro _ _ ⟨⟩) h
  | polling =>
    rw [hphase] at h
    dsimp only at h
    split at h
    · exact hgoes .refl (by rw [hphase]; rintro _ _ ⟨⟩) h
    · cases h
  | receiving =>
    have hb := Host.beside_receive (h := s.host) c.stream (packetLimit + 1)
    rw [hphase] at h
    dsimp only at h
    split at h
    · rename_i hr
      rw [hr] at hb
      exact hgoes hb (by rw [hphase]; rintro _ _ ⟨⟩) h
    · exact hgoes .refl (by rw [hphase]; rintro _ _ ⟨⟩) h
    · rename_i hr
      rw [hr] at hb
      exact hgoes hb (by rw [hphase]; rintro _ _ ⟨⟩) h
  | handling handler argument =>
    obtain ⟨command, rfl⟩ := hcommand handler argument hphase
    rw [hphase] at h
    exact task_of_command hc hphase h
  | writing response =>
    rw [hphase] at h
    exact hgoes (Host.beside_send _ _) (by rw [hphase]; rintro _ _ ⟨⟩) h
  | shutting =>
    rw [hphase] at h
    exact hgoes (Host.beside_shutdownEndpoint _ _ _) (by rw [hphase]; rintro _ _ ⟨⟩) h
  | untracking =>
    rw [hphase] at h
    obtain ⟨server, hserver, rfl⟩ := Option.map_eq_some_iff.mp h
    unfold Server.step? at hserver
    dsimp only at hserver
    rw [hc, Option.bind_some, hphase] at hserver
    cases hserver
    exact .untracks hphase
  | notifying =>
    rw [hphase] at h
    obtain ⟨u, hu, rfl⟩ := Option.map_eq_some_iff.mp h
    obtain ⟨server, hserver, rfl⟩ := Option.map_eq_some_iff.mp hu
    unfold Server.step? at hserver
    dsimp only at hserver
    rw [hc, Option.bind_some, hphase] at hserver
    cases hserver
    exact .announces hphase

end Service

end FsidRegistry

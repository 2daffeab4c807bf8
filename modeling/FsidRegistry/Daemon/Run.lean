import FsidRegistry.Config.Resolve
import FsidRegistry.Program
import FsidRegistry.Server.Service
import FsidRegistry.ServiceManager
import FsidRegistry.Store.Connect

/-!
Runs of the daemon. It resolves its configuration, opens its store, takes over or binds its socket, and
serves requests until it is told to end; then it drains its connections and gives up the socket.
-/

namespace FsidRegistry

/-- A daemon at work. -/
structure Daemon where
  /-- Where it listens, unless its socket was passed to it. -/
  socket : String
  service : Service
  env : Config.Environment
  /-- Where its database is kept. -/
  place : Option Place

namespace Daemon

/-- How long connections are drained. -/
def drainTimeout : Duration := .ofSeconds 30

/-- The end after a configuration that cannot be used. -/
def refusal (problems : List String) : ProgramEnd :=
  { status := 2, complaint :=
      "invalid configuration:\n" ++ String.join (problems.map fun p => "  - " ++ p ++ "\n") }

/-- The end after an error at the start. -/
def failure : Error → ProgramEnd
  | .invalidConfig problems => refusal problems
  | e => .ofError e

/-- Opens the store of a configuration and creates its table, if that is asked for. -/
def openStore (driver : DatabaseDriver) (c : Config) (files : Files) :
    Except Error (Backing × Option Place) × Files :=
  if c.memory then (.ok (.memory .empty, none), files)
  else
    match KeptStore.connect driver files c.database.url c.database.tableName
      c.database.maxConnections with
    | (.error e, files) => (.error (.store e), files)
    | (.ok kept, files) =>
      if c.database.createTable then
        match kept.store.createTable with
        | .error e => (.error (.store e), files)
        | .ok store => (.ok (.sql store, kept.place), KeptStore.save kept.place store files)
      else (.ok (.sql kept.store, kept.place), files)

/-- The listener of a daemon: on the socket that was passed to it, or bound at its path. -/
def openListener (c : Config) (passed : Except Errno (Option SocketId)) (h : Host) :
    Except Error Listener × Host :=
  match passed with
  | .error e => (.error (.system e), h)
  | .ok (some socket) => (.ok (.adopt socket), h)
  | .ok none => Listener.bind h c.socket

/-- Starts a daemon with pid `pid`. `descriptors` tells which socket is open under a number. A daemon
that cannot start ends, and may have changed the host by then. -/
def start (driver : DatabaseDriver) (h : Host) (env : Config.Environment) (pid : Nat)
    (descriptors : Nat → Option SocketId) (arguments : List String) (now : Instant) :
    Except (ProgramEnd × Host) Daemon := do
  let a ← (DaemonArguments.read arguments).mapError fun u => (.ofUsage u, h)
  let c ← (Config.resolve h.files env a).mapError fun e => (failure e, h)
  let (opened, files) := openStore driver c h.files
  let h := { h with files }
  let (store, place) ← opened.mapError fun e => (failure e, h)
  let (passed, env) := ServiceManager.takeActivated env pid fun n => (descriptors n).isSome
  let (listener, h) := openListener c (passed.map (·.bind fun taken => descriptors taken.number)) h
  let listener ← listener.mapError fun e => (failure e, h)
  let host := ServiceManager.notify env ServiceManager.ready h
  let service := Service.start listener host (.start c.cache { store }) now
  let (_, service) := service.registerCommands.beginServe
  return ⟨c.socket, service.settle, env, place⟩

/-- The files after the database was written back. -/
def saveStore (d : Daemon) (files : Files) : Files :=
  match d.service.backend.store.store with
  | .sql store => KeptStore.save d.place store files
  | .memory _ => files

/-- Ends a daemon that is told to: connections are drained, what is left is closed, and the socket is
given up. -/
def stop (d : Daemon) : ProgramEnd × Host :=
  let s := { d.service with
    host := ServiceManager.notify d.env ServiceManager.stopping d.service.host }
  let (drain, s) := s.beginStop false drainTimeout
  let (_, s) := s.awaitStop drain
  let (close, s) := s.beginStop true .zero
  let (_, s) := s.awaitStop close
  let h := s.server.listener.drop s.host
  ({ status := 0 }, { h with files := d.saveStore h.files })

end Daemon

end FsidRegistry

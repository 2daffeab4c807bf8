import FsidRegistry.Control.Run
import FsidRegistry.Daemon.Run
import FsidRegistry.Store.Sqlite

/-!
The command line. Its first argument names the program to be run, `fsidd` or `fsidctl`; the others are the
arguments of that program. Both run on a host of their own: the daemon takes each line of the standard
input for a request until the input ends, and the control program asks a daemon that has just started.
-/

namespace FsidRegistry.Main

/-- The host that the programs run on: its only folders are those of the sockets and of the programs. -/
def host : Host := (default : Host).place "/run" .directory |>.place "/etc" .directory

/-- The variables of the process that the daemon looks at. -/
def environment : IO Config.Environment := do
  let names := "FSID_SOCKET" :: "FSID_DATABASE_URL" :: "FSID_TABLE_NAME" :: Config.flagVariables
  let set ← names.filterMapM fun name => return (← IO.getEnv name).map ((name, ·))
  return fun name => (set.find? (·.1 == name)).map (·.2)

/-- Writes what a program leaves behind; returns its status. -/
def report (ending : ProgramEnd) : IO UInt32 := do
  IO.print ending.output
  IO.eprint ending.complaint
  return ending.status.toUInt32

/-- What a client got, as a line. -/
def lineOf : Option Service.Reply → String
  | some (.packet bytes) => Text.decodeReplacing bytes
  | some .closed => "closed"
  | none => "pending"

/-- Answers the lines of the standard input until it ends. -/
partial def answerLines (service : Service) (client : SocketId) : IO Service := do
  let line ← (← IO.getStdin).getLine
  if line.isEmpty then return service
  let packet := Text.encode (line.dropEndWhile (· == '\n')).toString
  let ((_, reply), service) := service.request client packet
  IO.println (lineOf reply)
  answerLines service client

/-- Runs the daemon. -/
def runDaemon (arguments : List String) : IO UInt32 := do
  match Daemon.start Sqlite.driver host (← environment) 1 (fun _ => none) arguments
    (← IO.monoNanosNow) with
  | .error (ending, _) => report ending
  | .ok daemon =>
    match daemon.service.connect daemon.socket with
    | (.error e, _) => report (.ofError (.system e))
    | (.ok client, service) =>
      let service ← answerLines service client
      report (Daemon.stop { daemon with service := service.hangUp client }).1

/-- Runs the control program. -/
def runControl (arguments : List String) : IO UInt32 := do
  match Daemon.start Sqlite.driver host (fun _ => none) 1 (fun _ => none) ["--memory"]
    (← IO.monoNanosNow) with
  | .error (ending, _) => report ending
  | .ok daemon => report (Control.run daemon.service false arguments).1

end FsidRegistry.Main

/-- Runs the program that the first argument names. -/
def main : List String → IO UInt32
  | "fsidd" :: arguments => FsidRegistry.Main.runDaemon arguments
  | "fsidctl" :: arguments => FsidRegistry.Main.runControl arguments
  | _ => do
    IO.eprintln "usage: fsidd [ARGUMENTS] or fsidctl [ARGUMENTS]"
    return 2

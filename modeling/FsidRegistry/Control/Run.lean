import FsidRegistry.Client
import FsidRegistry.Control.Arguments
import FsidRegistry.Program
import FsidRegistry.Server.Service

/-!
A run of the control program: it connects to a service, sends one request, and writes the value of the
response. A response that is an error ends it with a complaint.
-/

namespace FsidRegistry.Control

/-- The end after a response. -/
def endOf (colours : Bool) : Response → ProgramEnd
  | .ok value => { status := 0, output := value ++ "\n" }
  | .err text =>
    { status := 1, complaint := ProgramEnd.emphasised colours "error:" ++ " " ++ text ++ "\n" }

/-- Sends a request line over a new connection and waits for the response. -/
def exchange (s : Service) (client : SocketId) (line : String) : Except Error Response × Service :=
  let call := ClientCall.request line
  match Client.send s.host client call with
  | (.error e, host) => (.error e, { s with host })
  | (.ok (), host) =>
    let answer (s : Service) : Option (Except Error ClientAnswer × Service) :=
      match Client.receive s.host client call with
      | (some r, host) => some (r, { s with host })
      | (none, _) => none
    match { s with host }.await answer with
    | (some (.ok (.response r)), s) => (.ok r, s)
    | (some (.error e), s) => (.error e, s)
    | (_, s) => (.error .serverClosed, s)

/-- Runs the control program against a service. -/
def run (s : Service) (colours : Bool) (arguments : List String) : ProgramEnd × Service :=
  match ControlArguments.read arguments with
  | .error u => (.ofUsage u, s)
  | .ok a =>
    match s.connect a.socket with
    | (.error e, s) => (.ofError (.system e), s)
    | (.ok client, s) =>
      let (r, s) := exchange s client a.requestLine
      (match r with
        | .ok r => endOf colours r
        | .error e => .ofError e, s.hangUp client)

end FsidRegistry.Control

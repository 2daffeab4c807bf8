import FsidRegistry.Config.Basic
import FsidRegistry.Daemon.Arguments

/-!
The command line of the control program, which sends one request to the daemon.
-/

namespace FsidRegistry

/-- What the command line of the control program gives. -/
structure ControlArguments where
  /-- The path of the daemon's socket. -/
  socket : String
  verb : String
  argument : Option String
deriving DecidableEq, Inhabited

namespace ControlArguments

open CommandLine

/-- The path of the daemon's socket where none is given. -/
def defaultSocket : String := ({} : Config).socket

/-- The form of the command line. -/
def form : ProgramSyntax where
  name := "fsidctl"
  version := programVersion
  about := aboutPrograms
  options :=
    [{ name := "socket", letter := 's', role := .given (some ⟨.path, "PATH"⟩),
       about := "Path of the daemon's socket [default: " ++ defaultSocket ++ "]" }]
  operands :=
    [{ name := "VERB", required := true,
       about := "The verb to send, e.g. \x60get_or_create_fsidnum\x60" },
     { name := "ARG", required := false, about := "The argument of the verb" }]

/-- Reads the command line. -/
def read (arguments : List String) : Except Usage ControlArguments :=
  (form.read arguments).map fun a =>
    { socket := (a.value? "socket").getD defaultSocket
      verb := a.operands.headD ""
      argument := a.operands[1]? }

/-- The request line to be sent. -/
def requestLine (a : ControlArguments) : String :=
  match a.argument with
  | some argument => a.verb ++ " " ++ argument
  | none => a.verb

end ControlArguments

end FsidRegistry

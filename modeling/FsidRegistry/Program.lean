import FsidRegistry.CommandLine.Read
import FsidRegistry.Error

/-!
How programs end: an exit status, and what is written to the output and beside it.
-/

namespace FsidRegistry

/-- The end of a program. -/
structure ProgramEnd where
  status : Nat
  output : String := ""
  /-- What is written for the user beside the output. -/
  complaint : String := ""
deriving DecidableEq, Inhabited

namespace ProgramEnd

/-- The end after a command line that is not run. What is wrong with it is said elsewhere. -/
def ofUsage (u : CommandLine.Usage) : ProgramEnd :=
  { status := u.exitStatus, output := match u with
    | .help text | .version text => text
    | _ => "" }

/-- The end after an error. -/
def ofError (e : Error) : ProgramEnd := { status := 1, complaint := "Error: " ++ e.report ++ "\n" }

/-- A word of complaint, bold and red on a terminal that shows colours. -/
def emphasised (colours : Bool) (word : String) : String :=
  if colours then "\x1b[1m\x1b[31m" ++ word ++ "\x1b[0m" else word

end ProgramEnd

end FsidRegistry

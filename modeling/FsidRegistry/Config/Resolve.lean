import FsidRegistry.Config.Layers
import FsidRegistry.Config.Read
import FsidRegistry.Error
import FsidRegistry.Host.Files
import FsidRegistry.Text.Utf8

/-!
The configuration that a daemon runs with: from its file, its environment and its command line.
-/

namespace FsidRegistry.Config

/-- The path of the file where none is given. This file may be missing. -/
def defaultPath : String := "/etc/knfsd-fsidd.toml"

/-- Reads a file as text. -/
def readFile (files : Files) (path : String) : Except IoError String :=
  if path.contains '\x00' then
    .error (.custom .invalidInput "file name contained an unexpected NUL byte")
  else match files.find true path with
    | .error e => .error (.system e)
    | .ok (_, none) => .error (.system .noEntry)
    | .ok (_, some (.file content)) =>
      match Text.decode? content with
      | some text => .ok text
      | none => .error (.custom .invalidData "stream did not contain valid UTF-8")
    | .ok (_, some .directory) => .error (.system .isDirectory)
    | .ok (_, some (.socket _)) => .error (.system .noDevice)
    | .ok (_, some _) => .error (.custom .invalidData "stream did not contain valid UTF-8")

/-- Reads a configuration, with its error among those of the daemon. -/
def readOrFail (text : String) : Except Error Config := (read text).mapError .configParse

/-- Loads the configuration file. -/
def load (files : Files) (path : Option String) : Except Error Config :=
  match readFile files (path.getD defaultPath) with
  | .ok text => readOrFail text
  | .error e =>
    if path.isNone && e = .system .noEntry then .ok {} else .error (.io e)

/-- Fails with complaints, if there are any. -/
def refuse (problems : List String) : Except Error Unit :=
  if problems.isEmpty then .ok () else .error (.invalidConfig problems)

/-- The configuration of a file overridden by the environment and the command line, if nothing keeps it
from being used. -/
def layered (c : Config) (env : Environment) (a : DaemonArguments) : Except Error Config := do
  let (c, complaints) := c.withEnvironment env
  refuse complaints
  let c := c.withArguments a
  refuse c.problems
  return c

/-- The configuration that a daemon runs with. -/
def resolve (files : Files) (env : Environment) (a : DaemonArguments) : Except Error Config := do
  (← load files a.config).layered env a

end FsidRegistry.Config

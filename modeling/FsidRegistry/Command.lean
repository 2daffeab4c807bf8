import FsidRegistry.Cache.Call

/-!
The commands of the protocol. Three of them call the cache, and their ends are recorded; the fourth
tells the protocol's version.
-/

namespace FsidRegistry

/-- A command. -/
inductive Command
  /-- The fsid of a path, or nothing. -/
  | getFsid
  /-- The fsid of a path, a new one if it has none. -/
  | getOrCreateFsid
  /-- The path of an fsid, or nothing. -/
  | getPath
  /-- The version of the protocol. -/
  | version
deriving DecidableEq, Repr, Inhabited

namespace Command

/-- All commands. -/
def all : List Command := [.getFsid, .getOrCreateFsid, .getPath, .version]

/-- The verb of a command. -/
def verb : Command → String
  | .getFsid => "GET_FSIDNUM"
  | .getOrCreateFsid => "GET_OR_CREATE_FSIDNUM"
  | .getPath => "GET_PATH"
  | .version => "VERSION"

/-- The version of the protocol. -/
def protocolVersion : String := "1"

/-- How a command starts: with a call of the cache, or with its result. -/
def start (command : Command) (argument : String) : Except (Except Error String) CacheRequest :=
  match command with
  | .getFsid =>
    if argument.isEmpty then .error (.error .invalidArgument) else .ok (.fsidOf argument)
  | .getOrCreateFsid =>
    if argument.isEmpty then .error (.error .invalidArgument) else .ok (.fsidOrAllocate argument)
  | .getPath =>
    match Fsid.readIssued? argument with
    | some fsid => .ok (.pathOf fsid)
    | none => .error (.error .invalidArgument)
  | .version => .error (.ok protocolVersion)

/-- The result of a command whose call of the cache ended. Nothing found is the empty text. -/
def finish (command : Command) : Except Error (Option Pair) → Except Error String
  | .error e => .error e
  | .ok none => .ok ""
  | .ok (some (fsid, path)) =>
    match command with
    | .getPath => .ok path
    | _ => .ok fsid.text

/-- Whether the end of a command is recorded. -/
def isRecorded : Command → Bool
  | .version => false
  | _ => true

end Command

end FsidRegistry

import FsidRegistry.Store.Error
import FsidRegistry.Text.Quoted
import FsidRegistry.Toml.Error

/-!
Errors of the registry, their one-line messages and their reports. The message of an error is what a
client reads after `- `, so it is part of the protocol.
-/

namespace FsidRegistry

/-- An error of the registry. -/
inductive Error
  /-- The argument of a command is missing or malformed. -/
  | invalidArgument
  /-- The server was shut down or closed. -/
  | serverClosed
  /-- The connection of the request was closed. -/
  | cancelled
  /-- Fewer bytes were written than asked. -/
  | shortWrite
  /-- A response is neither a success nor a failure. -/
  | unexpectedResponse (text : String)
  /-- The daemon answered with an error. -/
  | remote (text : String)
  | store (error : StoreError)
  | io (error : IoError)
  /-- A system call failed. -/
  | system (errno : Errno)
  /-- The configuration file cannot be read as a configuration. -/
  | configParse (error : Toml.Error)
  /-- Values of the configuration are missing or invalid. -/
  | invalidConfig (problems : List String)
  /-- Several errors occurred while a server was stopped. -/
  | multiple (errors : List Error)
  /-- Any other error, with the errors beneath it. -/
  | custom (text : String) (causes : List String)
deriving Inhabited

namespace Error

mutual

/-- The message of an error. -/
def message : Error → String
  | .invalidArgument => "invalid argument"
  | .serverClosed => "server closed"
  | .cancelled => "operation cancelled"
  | .shortWrite => "short write"
  | .unexpectedResponse text => "unexpected response: " ++ Text.quoted text
  | .remote text => text
  | .store error => error.message
  | .io error => "io error: " ++ error.message
  | .system errno => "system error: " ++ errno.systemText
  | .configParse error => "config parse error: " ++ error.message
  | .invalidConfig problems => "invalid configuration: " ++ String.intercalate "; " problems
  | .multiple errors => String.intercalate "; " (messages errors)
  | .custom text _ => text

/-- The messages of a list of errors. -/
def messages : List Error → List String
  | [] => []
  | e :: es => e.message :: messages es

end

/-- The text of the error beneath an error. -/
def cause? : Error → Option String
  | .store error => error.cause?
  | .io error => some error.message
  | .system errno => some errno.systemText
  | .configParse error => some error.message
  | _ => none

/-- Indents all lines of a text. -/
def indented (text : String) : String := "    " ++ text.replace "\n" "\n    "

/-- The report of an error: its message and, indented, the error beneath it. -/
def report (e : Error) : String :=
  match e.cause? with
  | some text => e.message ++ "\n\nCaused by:\n" ++ indented text
  | none => e.message

/-- The outermost text of an error that is made of texts. -/
def asText? : Error → Option String
  | .custom text _ => some text
  | _ => none

/-- The store error that an error is. -/
def asStoreError? : Error → Option StoreError
  | .store error => some error
  | _ => none

/-- Whether an error means that the other end is gone or the connection was torn down. -/
def isClosed : Error → Bool
  | .serverClosed | .cancelled => true
  | .io error => error.isClosed
  | _ => false

/-- One result for the errors of a stop: none is a success, one stands for itself. -/
def merge : List Error → Except Error Unit
  | [] => .ok ()
  | [e] => .error e
  | es => .error (.multiple es)

end Error

end FsidRegistry

import FsidRegistry.Errno

/-!
Errors of input and output: an error number of the operating system, or a kind with its standard text
or a text of its own.
-/

namespace FsidRegistry

/-- What kind of input or output failed. -/
inductive IoErrorKind
  | notFound | permissionDenied | connectionRefused | connectionReset | hostUnreachable
  | networkUnreachable | connectionAborted | notConnected | addressInUse | addressNotAvailable
  | networkDown | brokenPipe | alreadyExists | wouldBlock | notADirectory | isADirectory
  | directoryNotEmpty | readOnlyFilesystem | staleNetworkFileHandle | invalidInput | invalidData
  | timedOut | writeZero | storageFull | notSeekable | quotaExceeded | fileTooLarge | resourceBusy
  | executableFileBusy | deadlock | crossesDevices | tooManyLinks | invalidFilename
  | argumentListTooLong | interrupted | unsupported | unexpectedEnd | outOfMemory | other
deriving DecidableEq, Repr, Inhabited

/-- All kinds. -/
def IoErrorKind.all : List IoErrorKind :=
  [.notFound, .permissionDenied, .connectionRefused, .connectionReset, .hostUnreachable,
    .networkUnreachable, .connectionAborted, .notConnected, .addressInUse, .addressNotAvailable,
    .networkDown, .brokenPipe, .alreadyExists, .wouldBlock, .notADirectory, .isADirectory,
    .directoryNotEmpty, .readOnlyFilesystem, .staleNetworkFileHandle, .invalidInput, .invalidData,
    .timedOut, .writeZero, .storageFull, .notSeekable, .quotaExceeded, .fileTooLarge, .resourceBusy,
    .executableFileBusy, .deadlock, .crossesDevices, .tooManyLinks, .invalidFilename,
    .argumentListTooLong, .interrupted, .unsupported, .unexpectedEnd, .outOfMemory, .other]

/-- The standard text of a kind. -/
def IoErrorKind.text : IoErrorKind → String
  | .notFound => "entity not found"
  | .permissionDenied => "permission denied"
  | .connectionRefused => "connection refused"
  | .connectionReset => "connection reset"
  | .hostUnreachable => "host unreachable"
  | .networkUnreachable => "network unreachable"
  | .connectionAborted => "connection aborted"
  | .notConnected => "not connected"
  | .addressInUse => "address in use"
  | .addressNotAvailable => "address not available"
  | .networkDown => "network down"
  | .brokenPipe => "broken pipe"
  | .alreadyExists => "entity already exists"
  | .wouldBlock => "operation would block"
  | .notADirectory => "not a directory"
  | .isADirectory => "is a directory"
  | .directoryNotEmpty => "directory not empty"
  | .readOnlyFilesystem => "read-only filesystem or storage medium"
  | .staleNetworkFileHandle => "stale network file handle"
  | .invalidInput => "invalid input parameter"
  | .invalidData => "invalid data"
  | .timedOut => "timed out"
  | .writeZero => "write zero"
  | .storageFull => "no storage space"
  | .notSeekable => "seek on unseekable file"
  | .quotaExceeded => "quota exceeded"
  | .fileTooLarge => "file too large"
  | .resourceBusy => "resource busy"
  | .executableFileBusy => "executable file busy"
  | .deadlock => "deadlock"
  | .crossesDevices => "cross-device link or rename"
  | .tooManyLinks => "too many links"
  | .invalidFilename => "invalid filename"
  | .argumentListTooLong => "argument list too long"
  | .interrupted => "operation interrupted"
  | .unsupported => "unsupported"
  | .unexpectedEnd => "unexpected end of file"
  | .outOfMemory => "out of memory"
  | .other => "other error"

/-- An error of input or output. -/
inductive IoError
  | system (errno : Errno)
  | standard (kind : IoErrorKind)
  | custom (kind : IoErrorKind) (text : String)
deriving DecidableEq, Repr, Inhabited

namespace IoError

/-- The text of an error. -/
def message : IoError → String
  | .system e => e.ioText
  | .standard kind => kind.text
  | .custom _ text => text

/-- Whether an error number means that the other end of a connection is gone. -/
def errnoIsClosed (e : Errno) : Bool :=
  [Errno.brokenPipe, .connectionAborted, .connectionReset, .notConnected].contains e

/-- Whether a kind means that the other end of a connection is gone. -/
def kindIsClosed : IoErrorKind → Bool
  | .unexpectedEnd | .brokenPipe | .connectionReset | .connectionAborted | .notConnected => true
  | _ => false

/-- Whether an error means that the other end of a connection is gone. -/
def isClosed : IoError → Bool
  | .system e => errnoIsClosed e
  | .standard kind | .custom kind _ => kindIsClosed kind

end IoError

end FsidRegistry

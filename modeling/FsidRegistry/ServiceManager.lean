import FsidRegistry.Config.Layers
import FsidRegistry.Host.Sockets
import FsidRegistry.Number.Decimal
import FsidRegistry.Text.Blank
import FsidRegistry.Text.Utf8

/-!
The service manager of a host: the listening socket that it may pass to a daemon that it starts, and the
states that it is told of.
-/

namespace FsidRegistry.ServiceManager

open Config (Environment)

/-- The descriptor of the first socket that is passed. -/
def firstDescriptor : Nat := 3

/-- The variables that tell of passed sockets. -/
def activationVariables : List String := ["LISTEN_PID", "LISTEN_FDS", "LISTEN_FDNAMES"]

/-- The number of 32 bits that a variable is set to. -/
def count? (env : Environment) (name : String) : Option Nat :=
  (env name).bind fun value => Number.readWord? (Text.trimBlanks value)

/-- The descriptor of the socket that is passed to the process `pid`, if one is. Of several the first is
taken. -/
def activatedDescriptor? (env : Environment) (pid : Nat) : Option Nat :=
  match count? env "LISTEN_PID", count? env "LISTEN_FDS" with
  | some owner, some sockets => if owner = pid && 1 ≤ sockets then some firstDescriptor else none
  | _, _ => none

/-- The environment without the variables that tell of passed sockets. -/
def withoutActivation (env : Environment) : Environment := fun name =>
  if activationVariables.contains name then none else env name

/-- A descriptor that was taken over. -/
structure Taken where
  number : Nat
  /-- Whether the programs that the process starts do without it. -/
  closesOnExec : Bool

/-- Takes over an open descriptor and keeps it from the programs that the process starts. -/
def take (isOpen : Nat → Bool) (descriptor : Nat) : Except Errno Taken :=
  if isOpen descriptor then .ok ⟨descriptor, true⟩ else .error .badDescriptor

/-- Takes over the passed socket: the descriptor, if one is passed, and the environment for what the
process starts. -/
def takeActivated (env : Environment) (pid : Nat) (isOpen : Nat → Bool) :
    Except Errno (Option Taken) × Environment :=
  (match activatedDescriptor? env pid with
    | none => .ok none
    | some descriptor => (take isOpen descriptor).map some,
    withoutActivation env)

/-- The state of a daemon that serves requests. -/
def ready : String := "READY=1"

/-- The state of a daemon that is about to end. -/
def stopping : String := "STOPPING=1"

/-- The open socket at a notification address: a path, or after `@` a name outside the files. -/
def addressee (h : Host) (address : String) : Except Errno SocketId :=
  match address.toList with
  | '@' :: name =>
    let name := String.ofList name
    if Host.socketPathLimit < name.utf8ByteSize then .error .nameTooLong
    else match h.abstractNames.get? name with
      | some id => .ok id
      | none => .error .connectionRefused
  | _ => do
    Host.checkSocketPath address
    if address.isEmpty then .error .invalidArgument
    else return (← h.socketAt address).1

/-- Tells the service manager at an address of a state. -/
def notifyAt (h : Host) (address state : String) : Except Errno Host := do
  let id ← addressee h address
  let bytes := Text.encode state
  if Host.packetSizeLimit < bytes.size then .error .messageTooLong
  else h.deliver id bytes

/-- Tells the service manager of a state, if the environment says where it is. That it cannot be told
is no failure. -/
def notify (env : Environment) (state : String) (h : Host) : Host :=
  match env "NOTIFY_SOCKET" with
  | some address => (notifyAt h address state).toOption.getD h
  | none => h

end FsidRegistry.ServiceManager

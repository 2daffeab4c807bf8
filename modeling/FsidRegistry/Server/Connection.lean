import FsidRegistry.Host.Sockets
import FsidRegistry.Server.Handlers

/-!
Connections of a server. A connection handles one request after another: it tests whether it is being
shut down, waits for a packet, has it handled, and writes one response. When this loop ends it closes
itself and leaves the live connections. `Connection.step?` is one atomic step of its task; the flag and
the token are also set from outside.
-/

namespace FsidRegistry

/-- The number of a connection. -/
abbrev ConnectionId : Type := Nat

/-- Where the task of a connection stands. -/
inductive ConnectionPhase (η : Type)
  /-- The accept loop is about to start the task. -/
  | created
  /-- About to test whether it is being shut down. -/
  | testing
  /-- About to test whether it is cancelled. -/
  | polling
  /-- About to receive a packet. -/
  | receiving
  /-- A handler is at work. -/
  | handling (handler : η) (argument : String)
  /-- About to write a response. -/
  | writing (response : ByteArray)
  /-- The loop has ended; about to set the shutdown flag. -/
  | flagging
  /-- About to shut the stream for reading. -/
  | shutting
  /-- About to set the token. -/
  | cancelling
  /-- About to leave the live connections. -/
  | untracking
  /-- About to tell those who wait for the live connections to change. -/
  | notifying
  | ended
  /-- A handler's fault has ended the task on the spot. -/
  | faulted
deriving Inhabited

/-- A connection. -/
structure Connection (η : Type) where
  stream : SocketId
  inShutdown : Bool := false
  cancelled : Bool := false
  phase : ConnectionPhase η := .created
deriving Inhabited

/-- What happens in a step of a connection's task. -/
inductive ConnectionEvent
  | tests
  | polls
  /-- A packet is received, cut at one byte more than a request may have. The empty one is the end. -/
  | receives (packet : ByteArray)
  | receiveFails
  | receiveWaits
  /-- The handler returns. -/
  | answers (result : Except Error String)
  /-- The handler faults. -/
  | faults
  /-- So many bytes of the response are written. -/
  | writes (bytes : Nat)
  | writeFails
  /-- A write that would wait is given up, since the connection is cancelled. -/
  | writeGivesUp
  | flags
  | shuts
  | cancels

namespace Connection

variable {η : Type}

/-- The phase after a request packet. -/
def phaseAfter (table : HandlerTable η) (packet : ByteArray) : ConnectionPhase η :=
  if packet.size == 0 then .flagging
  else match Request.dispatch table packet with
    | .respond response => .writing (Text.encode response.text)
    | .call handler argument => .handling handler argument

/-- The connection after a step of its task, if it can make the step. -/
def step? (table : HandlerTable η) (c : Connection η) : ConnectionEvent → Option (Connection η)
  | .tests => match c.phase with
    | .testing => some { c with phase := if c.inShutdown then .flagging else .polling }
    | _ => none
  | .polls => match c.phase with
    | .polling => some { c with phase := if c.cancelled then .flagging else .receiving }
    | _ => none
  | .receives packet => match c.phase with
    | .receiving => some { c with phase := phaseAfter table packet }
    | _ => none
  | .receiveFails => match c.phase with
    | .receiving => some { c with phase := .flagging }
    | _ => none
  | .receiveWaits => match c.phase with
    | .receiving => some { c with phase := .polling }
    | _ => none
  | .answers result => match c.phase with
    | .handling .. => some { c with phase := .writing (Text.encode (Response.ofResult result).text) }
    | _ => none
  | .faults => match c.phase with
    | .handling .. => some { c with phase := .faulted }
    | _ => none
  | .writes bytes => match c.phase with
    | .writing response =>
      some { c with phase := if bytes < response.size then .flagging else .testing }
    | _ => none
  | .writeFails => match c.phase with
    | .writing _ => some { c with phase := .flagging }
    | _ => none
  | .writeGivesUp => match c.phase with
    | .writing _ => if c.cancelled then some { c with phase := .flagging } else none
    | _ => none
  | .flags => match c.phase with
    | .flagging => some { c with inShutdown := true, phase := .shutting }
    | _ => none
  | .shuts => match c.phase with
    | .shutting => some { c with phase := .cancelling }
    | _ => none
  | .cancels => match c.phase with
    | .cancelling => some { c with cancelled := true, phase := .untracking }
    | _ => none

end Connection

end FsidRegistry

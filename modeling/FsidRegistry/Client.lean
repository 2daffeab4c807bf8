import FsidRegistry.Fsid
import FsidRegistry.Host.Sockets
import FsidRegistry.Response
import FsidRegistry.Text.Utf8

/-!
Clients: the request line of each call, how a call reads its response, and the exchange of one packet
for another over a connection. A client sends one request at a time and waits for its response.
-/

namespace FsidRegistry

/-- A call of a client. -/
inductive ClientCall
  /-- Any line, answered by its response. -/
  | request (line : String)
  /-- The fsid of a path, if it has one. -/
  | getFsid (path : String)
  /-- The fsid of a path, a new one if it has none. -/
  | getOrCreateFsid (path : String)
  /-- The path of an fsid, if it was issued. -/
  | getPath (fsid : Fsid)
  | version
deriving DecidableEq

/-- What a call is answered with. -/
inductive ClientAnswer
  | response (r : Response)
  | fsid (n : Option Fsid)
  | path (p : Option String)
  | version (text : String)
deriving DecidableEq

namespace ClientCall

/-- The request line of a call. -/
def line : ClientCall → String
  | .request line => line
  | .getFsid path => "get_fsidnum " ++ path
  | .getOrCreateFsid path => "get_or_create_fsidnum " ++ path
  | .getPath fsid => "get_path " ++ fsid.text
  | .version => "version"

/-- Reads the fsid of a response. -/
def readFsid (value : String) : Except Error Fsid :=
  match Fsid.read? value with
  | some fsid => .ok fsid
  | none => .error (.unexpectedResponse value)

/-- How a call reads its response. -/
def interpret (r : Response) : ClientCall → Except Error ClientAnswer
  | .request _ => .ok (.response r)
  | .getFsid _ => do
    let value ← r.toResult
    if value.isEmpty then return .fsid none
    return .fsid (some (← readFsid value))
  | .getOrCreateFsid _ => do
    let value ← r.toResult
    return .fsid (some (← readFsid value))
  | .getPath _ => do
    let value ← r.toResult
    return .path (if value.isEmpty then none else some value)
  | .version => do
    let value ← r.toResult
    return .version value

end ClientCall

namespace Client

/-- The most bytes of a response that a client receives: a sign, a space, and as much as a request
can hold. -/
def bufferSize : Nat := packetLimit + 2

/-- Reads a received response. An empty packet is the end of the connection. -/
def readPacket (packet : ByteArray) : Except Error Response :=
  if packet.size == 0 then .error .serverClosed else Response.read (Text.decodeReplacing packet)

/-- Sends the request line of a call. -/
def send (h : Host) (socket : SocketId) (call : ClientCall) : Except Error Unit × Host :=
  let bytes := Text.encode call.line
  let (r, h) := h.send socket bytes
  match r with
  | .error e => (.error (.io (.system e)), h)
  | .ok n => (if n < bytes.size then .error .shortWrite else .ok (), h)

/-- Receives the response to a call; nothing if it has not come yet. -/
def receive (h : Host) (socket : SocketId) (call : ClientCall) :
    Option (Except Error ClientAnswer) × Host :=
  match h.receive socket bufferSize with
  | (.wouldBlock, h) => (none, h)
  | (.failed e, h) => (some (.error (.io (.system e))), h)
  | (.packet p, h) => (some ((readPacket p).bind call.interpret), h)

end Client

end FsidRegistry

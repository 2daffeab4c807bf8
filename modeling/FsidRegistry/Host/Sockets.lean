import FsidRegistry.Host.Files

/-!
The sockets of a host: ends of connections that carry whole packets, listening sockets with their queue
of new connections, and datagram sockets. Nothing here waits; what would wait says so.
-/

namespace FsidRegistry

/-- The number of a socket. -/
abbrev SocketId : Type := Nat

/-- What kind of connections a listening socket takes. -/
inductive ConnectionKind
  | packets
  | bytes
deriving DecidableEq, Repr, Inhabited

/-- One end of a connection. -/
structure Endpoint where
  peer : SocketId
  /-- Packets to be received, oldest first. -/
  inbox : List ByteArray := []
  readShut : Bool := false
  writeShut : Bool := false
  /-- Whether the peer closed without having received everything. Reported once. -/
  reset : Bool := false
deriving Inhabited

/-- A listening socket. -/
structure ListeningSocket where
  kind : ConnectionKind
  backlog : Nat
  /-- Ends of connections to be accepted, oldest first. -/
  queue : List SocketId := []
  shut : Bool := false
deriving Inhabited

/-- An open socket. -/
inductive Socket
  | endpoint (e : Endpoint)
  | listening (l : ListeningSocket)
  | datagram (inbox : List ByteArray)
  /-- A socket that neither listens nor receives packets. -/
  | other
deriving Inhabited

/-- A host: its files, its open sockets, and the sockets bound to names outside the files. -/
structure Host where
  files : Files
  sockets : Dictionary SocketId Socket := ∅
  nextSocket : SocketId := 0
  abstractNames : Dictionary String SocketId := ∅
deriving Inhabited

namespace Host

/-- The most bytes of a packet. -/
def packetSizeLimit : Nat := 212960

/-- The most bytes of a socket path. -/
def socketPathLimit : Nat := 107

/-- Opens a socket. -/
def openSocket (h : Host) (s : Socket) : SocketId × Host :=
  (h.nextSocket, { h with sockets := h.sockets.insert h.nextSocket s, nextSocket := h.nextSocket + 1 })

/-- Replaces a socket. -/
def setSocket (h : Host) (id : SocketId) (s : Socket) : Host :=
  { h with sockets := h.sockets.insert id s }

/-- The end of a connection with number `id`. -/
def endpoint? (h : Host) (id : SocketId) : Option Endpoint :=
  match h.sockets.get? id with
  | some (.endpoint e) => some e
  | _ => none

/-- The listening socket with number `id`. -/
def listening? (h : Host) (id : SocketId) : Option ListeningSocket :=
  match h.sockets.get? id with
  | some (.listening l) => some l
  | _ => none

/-- Changes an end of a connection. -/
def modifyEndpoint (h : Host) (id : SocketId) (f : Endpoint → Endpoint) : Host :=
  match h.endpoint? id with
  | some e => h.setSocket id (.endpoint (f e))
  | none => h

/-- Opens the two ends of a connection. -/
def openPair (h : Host) : SocketId × SocketId × Host :=
  let (a, h) := h.openSocket (.endpoint { peer := h.nextSocket + 1 })
  let (b, h) := h.openSocket (.endpoint { peer := a })
  (a, b, h)

/-- What comes of receiving. -/
inductive Received
  | packet (bytes : ByteArray)
  | wouldBlock
  | failed (errno : Errno)

/-- Receives at most `size` bytes of the next packet; the rest of it is lost. The end of the stream is
the empty packet. -/
def receive (h : Host) (id : SocketId) (size : Nat) : Received × Host :=
  match h.endpoint? id with
  | none => (.failed .badDescriptor, h)
  | some e =>
    if e.reset then (.failed .connectionReset, h.setSocket id (.endpoint { e with reset := false }))
    else match e.inbox with
      | p :: rest =>
        (.packet (p.extract 0 size), h.setSocket id (.endpoint { e with inbox := rest }))
      | [] => if e.readShut then (.packet .empty, h) else (.wouldBlock, h)

/-- Whether receiving would not wait. -/
def isReadable (h : Host) (id : SocketId) : Bool :=
  match h.endpoint? id with
  | none => true
  | some e => e.reset || e.readShut || !e.inbox.isEmpty

/-- Sends a packet; returns its size. -/
def send (h : Host) (id : SocketId) (bytes : ByteArray) : Except Errno Nat × Host :=
  match h.endpoint? id with
  | none => (.error .badDescriptor, h)
  | some e =>
    if e.reset then (.error .connectionReset, h.setSocket id (.endpoint { e with reset := false }))
    else if packetSizeLimit < bytes.size then (.error .messageTooLong, h)
    else if e.writeShut || (h.endpoint? e.peer).isNone then (.error .brokenPipe, h)
    else
      (.ok bytes.size, h.modifyEndpoint e.peer fun p => { p with inbox := p.inbox ++ [bytes] })

/-- Shuts down halves of a connection: what one end no longer receives, the other cannot send. -/
def shutdownEndpoint (h : Host) (id : SocketId) (read write : Bool) : Host :=
  match h.endpoint? id with
  | none => h
  | some e =>
    let half (x : Endpoint) (r w : Bool) : Endpoint :=
      { x with readShut := x.readShut || r, writeShut := x.writeShut || w }
    (h.modifyEndpoint id (half · read write)).modifyEndpoint e.peer (half · write read)

/-- Closes an end of a connection. The other end can send no more, and learns of packets lost. -/
def closeEndpoint (h : Host) (id : SocketId) (lost : Bool) : Host :=
  match h.endpoint? id with
  | none => h
  | some e =>
    let lost := lost || !e.inbox.isEmpty
    let h := h.modifyEndpoint e.peer fun p =>
      { p with readShut := true, writeShut := true, reset := p.reset || lost }
    { h with sockets := h.sockets.erase id }

/-- Closes a socket. Connections that a listening socket has not accepted are lost. -/
def closeSocket (h : Host) (id : SocketId) : Host :=
  match h.sockets.get? id with
  | some (.endpoint _) => h.closeEndpoint id false
  | some (.listening l) =>
    let h := l.queue.foldl (fun h c => h.closeEndpoint c true) h
    { h with sockets := h.sockets.erase id }
  | _ => { h with sockets := h.sockets.erase id }

/-- Checks that a path can be written into a socket address. -/
def checkSocketPath (path : String) : Except Errno Unit :=
  if path.contains '\x00' then .error .invalidArgument
  else if socketPathLimit < path.utf8ByteSize then .error .nameTooLong
  else .ok ()

/-- Opens a socket and binds it to a path, where nothing may be. The empty path binds it to a name
of its own. -/
def bind (h : Host) (path : String) (s : Socket) : Except Errno (SocketId × Host) := do
  checkSocketPath path
  if path.isEmpty then return h.openSocket s
  match ← h.files.find false path with
  | (_, some _) => .error .addressInUse
  | (place, none) =>
    let (id, h) := h.openSocket s
    return (id, { h with files := h.files.put place (.socket id) })

/-- The open socket that a path leads to. -/
def socketAt (h : Host) (path : String) : Except Errno (SocketId × Socket) := do
  match ← h.files.find true path with
  | (_, none) => .error .noEntry
  | (_, some (.socket id)) =>
    match h.sockets.get? id with
    | some s => return (id, s)
    | none => .error .connectionRefused
  | (_, some _) => .error .connectionRefused

/-- Connects to the listening socket at a path; returns the new end. A full queue asks to try again. -/
def connect (h : Host) (path : String) : Except Errno (SocketId × Host) := do
  checkSocketPath path
  if path.isEmpty then .error .invalidArgument
  let (id, s) ← h.socketAt path
  match s with
  | .listening l =>
    if l.kind ≠ .packets then .error .wrongProtocolType
    else if l.shut then .error .connectionRefused
    else if l.backlog < l.queue.length then .error .tryAgain
    else
      let (mine, theirs, h) := h.openPair
      return (mine, h.setSocket id (.listening { l with queue := l.queue ++ [theirs] }))
  | .datagram _ => .error .wrongProtocolType
  | _ => .error .connectionRefused

/-- What comes of accepting. -/
inductive Accepted
  | connection (id : SocketId)
  | wouldBlock
  | failed (errno : Errno)

/-- Accepts the oldest connection of a listening socket. -/
def accept (h : Host) (id : SocketId) : Accepted × Host :=
  match h.listening? id with
  | none => (.failed .invalidArgument, h)
  | some l =>
    match l.queue with
    | c :: rest => (.connection c, h.setSocket id (.listening { l with queue := rest }))
    | [] => (.wouldBlock, h)

/-- Whether accepting would not wait. -/
def isAcceptable (h : Host) (id : SocketId) : Bool :=
  match h.listening? id with
  | none => true
  | some l => !l.queue.isEmpty

/-- Shuts a listening socket down: no more connections are queued. -/
def shutdownListening (h : Host) (id : SocketId) : Host :=
  match h.listening? id with
  | some l => h.setSocket id (.listening { l with shut := true })
  | none => h

/-- Sends a datagram to an open socket. -/
def deliver (h : Host) (id : SocketId) (bytes : ByteArray) : Except Errno Host :=
  match h.sockets.get? id with
  | some (.datagram inbox) => .ok (h.setSocket id (.datagram (inbox ++ [bytes])))
  | some _ => .error .wrongProtocolType
  | none => .error .connectionRefused

/-- The datagrams that a socket has received, oldest first. -/
def datagrams (h : Host) (id : SocketId) : List ByteArray :=
  match h.sockets.get? id with
  | some (.datagram inbox) => inbox
  | _ => []

/-- Puts something at a path, where its folder exists. -/
def place (h : Host) (path : String) (e : Entry) : Host :=
  { h with files := (h.files.write path e).toOption.getD h.files }

/-- Leaves the file of a socket at a path that nobody holds open. -/
def placeStaleSocket (h : Host) (path : String) : Host :=
  let (id, h) := h.openSocket .other
  (h.place path (.socket id)).closeSocket id

/-- Removes what is at a path, if it is no folder. -/
def remove (h : Host) (path : String) : Host :=
  { h with files := (h.files.unlink path).toOption.getD h.files }

/-- Whether anything is at a path; links are not followed. -/
def hasEntry (h : Host) (path : String) : Bool :=
  match h.files.find false path with
  | .ok (_, some _) => true
  | _ => false

end Host

end FsidRegistry

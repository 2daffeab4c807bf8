import FsidRegistry.Error
import FsidRegistry.Host.Sockets

/-!
Listeners: a listening socket together with the socket file it owns. A listener that was bound owns its
file until it gives it up, and removes it then; one that was handed over owns none.
-/

namespace FsidRegistry

/-- A listener. -/
structure Listener where
  socket : SocketId
  /-- The socket file it owns. -/
  path : Option String
deriving DecidableEq, Inhabited

namespace Listener

/-- How many connections wait to be accepted at most. -/
def backlog : Nat := 128

/-- Makes room for a socket file: removes a socket file that is there and refuses anything else. -/
def clearPath (h : Host) (path : String) : Except Error Host :=
  if path.contains '\x00' then
    .error (.io (.custom .invalidInput "file name contained an unexpected NUL byte"))
  else
    match h.files.find false path with
    | .error e => if e = .noEntry then .ok h else .error (.io (.system e))
    | .ok (_, none) => .ok h
    | .ok (_, some (.socket _)) =>
      match h.files.unlink path with
      | .ok files => .ok { h with files }
      | .error e => .error (.io (.system e))
    | .ok (_, some _) =>
      .error (.io (.custom .alreadyExists (path ++ " exists and is not a socket")))

/-- Binds a new listener at a path. The host is changed also by a bind that fails after the path was
cleared. -/
def bind (h : Host) (path : String) : Except Error Listener × Host :=
  match clearPath h path with
  | .error e => (.error e, h)
  | .ok h =>
    match h.bind path (.listening { kind := .packets, backlog }) with
    | .error e => (.error (.system e), h)
    | .ok (socket, h) => (.ok ⟨socket, some path⟩, h)

/-- The listener on a socket that was handed over. -/
def adopt (socket : SocketId) : Listener := ⟨socket, none⟩

/-- What comes of removing a socket file. -/
inductive Removal
  | removed
  | absent
  | failed (error : IoError)
deriving DecidableEq

/-- Whether a removal is a success. A file that is gone already need not be removed. -/
def Removal.result : Removal → Except IoError Unit
  | .removed | .absent => .ok ()
  | .failed e => .error e

/-- Gives up the socket file, whatever comes of removing it. -/
def release (l : Listener) (removal : Removal) : Except IoError Unit × Listener :=
  match l.path with
  | some _ => (removal.result, { l with path := none })
  | none => (.ok (), l)

/-- Removes the socket file of a path. -/
def removeFile (h : Host) (path : String) : Removal × Host :=
  match h.files.unlink path with
  | .ok files => (.removed, { h with files })
  | .error e => if e = .noEntry then (.absent, h) else (.failed (.system e), h)

/-- What removing the owned file comes to. -/
def removal (l : Listener) (h : Host) : Removal × Host :=
  match l.path with
  | some path => removeFile h path
  | none => (.absent, h)

/-- Removes the owned socket file, so that no new client finds the listener. -/
def unlink (l : Listener) (h : Host) : Except IoError Unit × Listener × Host :=
  let (r, h) := l.removal h
  let (result, l) := l.release r
  (result, l, h)

/-- Removes the owned socket file and lets no further connection queue up. -/
def close (l : Listener) (h : Host) : Except IoError Unit × Listener × Host :=
  let (result, l, h) := l.unlink h
  (result, l, h.shutdownListening l.socket)

/-- Drops the listener: its file is removed and its socket closed. -/
def drop (l : Listener) (h : Host) : Host :=
  let (_, l, h) := l.unlink h
  h.closeSocket l.socket

end Listener

end FsidRegistry

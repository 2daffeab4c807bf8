import FsidRegistry.Duration
import FsidRegistry.Store.Backing

/-!
A store whose calls are logged and may be disturbed. Each call takes the next item of a script, which
can delay it, cancel the request, let someone else allocate a path first, and answer in the store's place.
-/

namespace FsidRegistry

/-- An answer in the store's place. -/
inductive ScriptedReply
  | error (e : StoreError)
  | fsid (n : Fsid)
  | path (p : String)

/-- How one call is disturbed. -/
structure Disturbance where
  /-- How many nanoseconds the call takes. -/
  takes : Nat := 0
  /-- Whether the request is cancelled while the call is made. -/
  cancels : Bool := false
  /-- A path that someone else allocates first. -/
  peerAllocates : Option String := none
  reply : Option ScriptedReply := none

/-- A store with the script of its next calls and the log of the calls made, newest first. -/
structure ScriptedStore where
  store : Backing
  script : List Disturbance := []
  log : List String := []

namespace ScriptedStore

/-- Begins a call: logs it and takes the next item of the script. -/
def begin (s : ScriptedStore) (q : Query) : Disturbance × ScriptedStore :=
  (s.script.headD {}, { s with script := s.script.tail, log := q.text :: s.log })

/-- The scripted answer to a question, if the reply is of the question's kind. -/
def replyTo? (r : ScriptedReply) : (q : Query) → Option (Answer q)
  | .fsidOf _ | .allocate _ =>
    match r with
    | .error e => some (.error e)
    | .fsid n => some (.ok n)
    | .path _ => none
  | .pathOf _ =>
    match r with
    | .error e => some (.error e)
    | .path p => some (.ok p)
    | .fsid _ => none

/-- Ends a call: the answer and the store after it. -/
def finish (s : ScriptedStore) (d : Disturbance) (q : Query) : Answer q × ScriptedStore :=
  let store := match d.peerAllocates with
    | some path => (Backing.source.ask (.allocate path) s.store).2
    | none => s.store
  match d.reply.bind (replyTo? · q) with
  | some answer => (answer, { s with store })
  | none => let (answer, store) := Backing.source.ask q store; (answer, { s with store })

/-- Takes the log of the calls made, oldest first. -/
def takeLog (s : ScriptedStore) : List String × ScriptedStore :=
  (s.log.reverse, { s with log := [] })

end ScriptedStore

end FsidRegistry

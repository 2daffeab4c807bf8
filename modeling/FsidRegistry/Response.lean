import FsidRegistry.Error

/-!
Responses: one message each, `+ ` before a result or `- ` before an error message. The space may be
missing if nothing follows.
-/

namespace FsidRegistry

/-- The most bytes of a request. -/
def packetLimit : Nat := 8192

/-- A response as a client reads it. -/
inductive Response
  | ok (value : String)
  | err (message : String)
deriving DecidableEq, Repr, Inhabited

namespace Response

/-- The text of a response. -/
def text : Response → String
  | .ok value => "+ " ++ value
  | .err message => "- " ++ message

/-- The response to a request that ended with `result`. -/
def ofResult : Except Error String → Response
  | .ok value => .ok value
  | .error e => .err e.message

/-- Reads a response. -/
def read (message : String) : Except Error Response :=
  match message.toList with
  | '+' :: ' ' :: value => .ok (.ok (String.ofList value))
  | '-' :: ' ' :: text => .ok (.err (String.ofList text))
  | ['+'] => .ok (.ok "")
  | ['-'] => .ok (.err "")
  | _ => .error (.unexpectedResponse message)

/-- Whether a response carries a result. -/
def isOk : Response → Bool
  | .ok _ => true
  | .err _ => false

/-- The result of a response; an error message becomes an error of the other end. -/
def toResult : Response → Except Error String
  | .ok value => .ok value
  | .err message => .error (.remote message)

end Response

end FsidRegistry

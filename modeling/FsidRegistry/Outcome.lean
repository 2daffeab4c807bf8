import FsidRegistry.Error

/-!
How requests end. An empty success is how a lookup reports that there is nothing.
-/

namespace FsidRegistry

/-- How a request ended. -/
inductive Outcome
  | ok | notFound | invalid | error | cancelled
deriving DecidableEq, Repr, Inhabited

namespace Outcome

/-- The outcome of a command's result. -/
def of : Except Error String → Outcome
  | .ok value => if value.isEmpty then .notFound else .ok
  | .error .invalidArgument => .invalid
  | .error .cancelled => .cancelled
  | .error (.store .notFound) => .notFound
  | .error _ => .error

/-- The word for an outcome. -/
def text : Outcome → String
  | .ok => "ok"
  | .notFound => "not_found"
  | .invalid => "invalid"
  | .error => "error"
  | .cancelled => "cancelled"

end Outcome

end FsidRegistry

/-!
Faults: broken preconditions that end a task on the spot. Unlike an error, a fault is nothing that a
caller handles.
-/

namespace FsidRegistry

/-- Why a task was ended on the spot. -/
inductive Fault
  /-- An instant lies beyond the range of the clock. -/
  | instantOverflow
  /-- A duration grew beyond the longest one, or became not-a-number. -/
  | durationOverflow
  /-- A handler was registered for the empty verb. -/
  | emptyVerb
  /-- A handler was registered for a verb that has one. -/
  | verbTaken (verb : String)
  /-- A handler was registered after the server had started serving. -/
  | alreadyServing (verb : String)
deriving DecidableEq, Repr

/-- The message of a fault. -/
def Fault.message : Fault → String
  | .instantOverflow => "overflow when adding duration to instant"
  | .durationOverflow => "cannot convert float seconds to Duration: value is either too big or NaN"
  | .emptyVerb => "cmd required"
  | .verbTaken verb => "multiple registrations for " ++ verb
  | .alreadyServing verb => "handler for " ++ verb ++ " registered after serving started"

end FsidRegistry

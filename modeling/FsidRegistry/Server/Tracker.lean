import FsidRegistry.Server.Connection

/-!
The tracker of a server: its live connections, whether an accept loop runs, and whether a stop has
begun. Those who wait for it to change register first, then look, then park, so that no change between
looking and parking is missed.
-/

namespace FsidRegistry

/-- What a server keeps under its lock. -/
structure Tracker where
  inShutdown : Bool := false
  listening : Bool := false
  /-- The live connections, oldest first. -/
  live : List ConnectionId := []
deriving DecidableEq, Inhabited

namespace Tracker

/-- Marks an accept loop as running, unless a stop has begun. -/
def startListening? (t : Tracker) : Option Tracker :=
  if t.inShutdown then none else some { t with listening := true }

/-- Marks no accept loop as running. -/
def stopListening (t : Tracker) : Tracker := { t with listening := false }

/-- Marks a stop as begun. -/
def beginShutdown (t : Tracker) : Tracker := { t with inShutdown := true }

/-- Adds a live connection, unless a stop has begun. -/
def track? (t : Tracker) (id : ConnectionId) : Option Tracker :=
  if t.inShutdown then none else some { t with live := t.live ++ [id] }

/-- Removes a live connection. -/
def untrack (t : Tracker) (id : ConnectionId) : Tracker :=
  { t with live := t.live.filter (· != id) }

end Tracker

/-- Where someone stands who waits for the tracker to change. `woken` tells whether it has changed since
the registration. -/
inductive Wait
  /-- About to register. -/
  | registering
  /-- Registered; about to look. -/
  | checking (woken : Bool)
  /-- Looked in vain. -/
  | parked (woken : Bool)
deriving DecidableEq, Inhabited

namespace Wait

/-- What a notification does to someone who waits. -/
def notify : Wait → Wait
  | .registering => .registering
  | .checking _ => .checking true
  | .parked _ => .parked true

/-- A step of someone who waits for `condition` to hold. -/
inductive Event
  | registers
  | checks
  | wakes
deriving DecidableEq

/-- The wait after a step: nothing left of it once the condition was seen. -/
def step? (condition : Bool) : Wait → Event → Option (Option Wait)
  | .registering, .registers => some (some (.checking false))
  | .checking woken, .checks => some (if condition then none else some (.parked woken))
  | .parked true, .wakes => some (some .registering)
  | _, _ => none

end Wait

end FsidRegistry

import FsidRegistry.Binary64.Basic
import FsidRegistry.Fault

/-!
Durations of whole nanoseconds below `2 ^ 64` seconds, and instants of a clock that counts
nanoseconds and ends before `2 ^ 63` seconds.
-/

namespace FsidRegistry

/-- Nanoseconds in a second. -/
def nanosPerSecond : Nat := 1000000000

/-- A length of time. -/
structure Duration where
  nanos : Nat
  inRange : nanos < Nat.pow 2 64 * nanosPerSecond
deriving DecidableEq

namespace Duration

/-- The duration of `n` nanoseconds, or the longest one if `n` is out of range. -/
def ofNanos (n : Nat) : Duration :=
  ⟨min n (Nat.pow 2 64 * nanosPerSecond - 1), by
    have : 0 < Nat.pow 2 64 * nanosPerSecond := by decide
    omega⟩

def zero : Duration := ofNanos 0

instance : Inhabited Duration := ⟨zero⟩

def ofMillis (n : Nat) : Duration := ofNanos (n * 1000000)

def ofSeconds (n : Nat) : Duration := ofNanos (n * nanosPerSecond)

/-- The whole seconds. -/
def seconds (d : Duration) : Nat := d.nanos / nanosPerSecond

/-- The nanoseconds beyond the whole seconds. -/
def subsecondNanos (d : Duration) : Nat := d.nanos % nanosPerSecond

/-- The shorter of two durations. -/
def min (a b : Duration) : Duration := if a.nanos ≤ b.nanos then a else b

/-- The duration in seconds as a double-precision number: seconds and fraction are rounded on
their own, and their sum once more. -/
def toBinary64 (d : Duration) : Binary64 :=
  .addNonneg (.ofNat d.seconds) (.ofRatio false d.subsecondNanos nanosPerSecond)

/-- The duration of a number of seconds, rounded to the nearest nanosecond, a half to the even one. -/
def ofBinary64 : Binary64 → Except Fault Duration
  | .nan | .infinite _ => .error .durationOverflow
  | .finite negative m e =>
    let (num, den) := Binary64.ratio m e
    let n := Binary64.roundHalfEven (num * nanosPerSecond) den
    if h : ¬ negative ∧ n < Nat.pow 2 64 * nanosPerSecond then .ok ⟨n, h.2⟩
    else .error .durationOverflow

/-- The duration times `factor`, by double-precision arithmetic on seconds. -/
def scale (d : Duration) (factor : Binary64) : Except Fault Duration :=
  ofBinary64 (factor.mul d.toBinary64)

end Duration

/-- A point in time, in nanoseconds since the clock began. -/
abbrev Instant := Nat

/-- The first instant that the clock cannot show. -/
def clockEnd : Instant := Nat.pow 2 63 * nanosPerSecond

/-- The instant `d` after `now`. -/
def Instant.after (now : Instant) (d : Duration) : Except Fault Instant :=
  if now + d.nanos < clockEnd then .ok (now + d.nanos) else .error .instantOverflow

end FsidRegistry

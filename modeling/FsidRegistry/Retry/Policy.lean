import FsidRegistry.Duration

/-!
Retry policies and the random pauses between the attempts of an operation. A pause is drawn between
zero and a bound; the bound starts at the initial one and grows by a factor after each pause, up to
a maximum.
-/

namespace FsidRegistry.Retry

/-- How an operation is retried. -/
structure Policy where
  /-- How long an operation may keep retrying, from its first attempt on. -/
  deadline : Duration := .ofSeconds 300
  /-- The bound of the first pause. -/
  initial : Duration := .ofMillis 50
  /-- The largest bound of any pause. -/
  maximum : Duration := .ofSeconds 60
  /-- How much the bound grows after each pause. -/
  multiplier : Binary64 := .ofNat 2
deriving DecidableEq, Inhabited

/-- The pauses still to come. -/
structure Backoff where
  bound : Duration
  maximum : Duration
  multiplier : Binary64
deriving DecidableEq, Inhabited

/-- The pauses of a policy from the first one on. -/
def Policy.backoff (p : Policy) : Backoff :=
  ⟨p.initial.min p.maximum, p.maximum, p.multiplier.atLeastOne⟩

namespace Backoff

/-- The largest pause that can be drawn: the bound, or `2 ^ 64 - 1` nanoseconds if it is longer. -/
def largestPause (b : Backoff) : Nat := min b.bound.nanos 18446744073709551615

/-- Whether a pause is within the bound. -/
def allows (b : Backoff) (pause : Duration) : Bool := pause.nanos ≤ b.bound.nanos

/-- The next pause and the pauses after it. The pause is `draw` nanoseconds; a draw beyond the
largest pause counts as the largest one. -/
def pause (b : Backoff) (draw : Nat) : Except Fault (Duration × Backoff) := do
  let grown ← b.bound.scale b.multiplier
  return (.ofNanos (min draw b.largestPause), { b with bound := grown.min b.maximum })

end Backoff

end FsidRegistry.Retry

import FsidRegistry.Error
import FsidRegistry.Retry.Policy

/-!
Operations that are retried. A run alternates between attempts and pauses until an attempt succeeds or
fails for good, the next pause would reach the deadline, or the request is cancelled. `verdict` decides
what follows an attempt; `TimedRun.step?` puts a run on a clock beside a cancellation token, one event at
a time.
-/

namespace FsidRegistry.Retry

/-- What follows an attempt. -/
inductive Verdict (α : Type)
  | finished (result : Except Error α)
  | pause (wake : Instant) (backoff : Backoff)
  | faulted (fault : Fault)

/-- Decides what follows an attempt that ended at `now`. The deadline is tested before the
cancellation, and the pause is drawn before either. -/
def verdict {α : Type} (deadline : Instant) (backoff : Backoff) (outcome : Except StoreError α)
    (now : Instant) (draw : Nat) (cancelled : Bool) : Verdict α :=
  match outcome with
  | .ok value => .finished (.ok value)
  | .error e =>
    if !e.isRetryable then .finished (.error (.store e))
    else
      match backoff.pause draw with
      | .error fault => .faulted fault
      | .ok (pause, next) =>
        match now.after pause with
        | .error fault => .faulted fault
        | .ok wake =>
          if deadline ≤ wake then .finished (.error (.store e))
          else if cancelled then .finished (.error .cancelled)
          else .pause wake next

/-- Where a run stands. -/
inductive Phase (α : Type)
  /-- An attempt is being made. -/
  | attempting
  /-- The next attempt is made at `wake`. -/
  | pausing (wake : Instant)
  | finished (result : Except Error α)
  | faulted (fault : Fault)

/-- The attempts beyond the first, of those that were counted. -/
def retriesOf (attempts : UInt32) : UInt32 := .ofNat (attempts.toNat - 1)

/-- An operation that is retried. -/
structure Run (α : Type) where
  deadline : Instant
  backoff : Backoff
  /-- The count of the attempts that were started. It starts again after 2^32 of them. -/
  attempts : UInt32
  phase : Phase α

namespace Run

variable {α : Type}

/-- The attempts beyond the first. -/
def retries (r : Run α) : UInt32 := retriesOf r.attempts

/-- The run that starts at `now` with its first attempt. -/
def start (policy : Policy) (now : Instant) : Run α :=
  match now.after policy.deadline with
  | .ok deadline => ⟨deadline, policy.backoff, 1, .attempting⟩
  | .error fault => ⟨now, policy.backoff, 0, .faulted fault⟩

/-- The run after its attempt ended. -/
def attemptEnded (r : Run α) (outcome : Except StoreError α) (now : Instant) (draw : Nat)
    (cancelled : Bool) : Run α :=
  match verdict r.deadline r.backoff outcome now draw cancelled with
  | .finished result => { r with phase := .finished result }
  | .pause wake next => { r with phase := .pausing wake, backoff := next }
  | .faulted fault => { r with phase := .faulted fault }

/-- The run after its pause. -/
def resume (r : Run α) : Run α := { r with phase := .attempting, attempts := r.attempts + 1 }

/-- The run after its pause was cut short. -/
def cancel (r : Run α) : Run α := { r with phase := .finished (.error .cancelled) }

end Run

/-- A run on a clock, beside the cancellation token of its request. -/
structure TimedRun (α : Type) where
  now : Instant
  cancelled : Bool
  run : Run α

/-- What can happen next to a run. -/
inductive Event (α : Type)
  | timePasses (nanos : Nat)
  | tokenCancelled
  /-- The attempt ends; a pause after it is drawn by `draw`. -/
  | attemptEnds (outcome : Except StoreError α) (draw : Nat)
  /-- The pause is over. -/
  | timerFires
  /-- The pause is cut short. -/
  | cancellationSeen

namespace TimedRun

variable {α : Type}

/-- The run after an event, if the event can happen. A pause ends no earlier than asked and is cut
short only by the token; when both are due, either may win. -/
def step? (p : TimedRun α) : Event α → Option (TimedRun α)
  | .timePasses nanos => some { p with now := p.now + nanos }
  | .tokenCancelled => some { p with cancelled := true }
  | .attemptEnds outcome draw =>
    match p.run.phase with
    | .attempting => some { p with run := p.run.attemptEnded outcome p.now draw p.cancelled }
    | _ => none
  | .timerFires =>
    match p.run.phase with
    | .pausing wake => if wake ≤ p.now then some { p with run := p.run.resume } else none
    | _ => none
  | .cancellationSeen =>
    match p.run.phase with
    | .pausing _ => if p.cancelled then some { p with run := p.run.cancel } else none
    | _ => none

/-- The run after a list of events, if they can happen in that order. -/
def steps? (p : TimedRun α) : List (Event α) → Option (TimedRun α)
  | [] => some p
  | e :: es => (p.step? e).bind (·.steps? es)

end TimedRun

end FsidRegistry.Retry

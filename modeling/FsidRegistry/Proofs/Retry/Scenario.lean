import FsidRegistry.Proofs.Retry.Step

/-!
# Scenarios of a run

A scenario lays down all that a run meets: when it starts, how long its attempts take and what comes
of them, how its pauses are drawn, and when its request is cancelled.  From this follows when each
attempt is made, if it is made at all, and what may follow it.

* `Scenario.startOf`: when an attempt starts.
* `Scenario.Ends`, `Scenario.GoesOn`: what may follow an attempt.  There is nothing else
  (`goesOn_or_ends`), and both only where the request is cancelled at the very end of a pause
  (`Ends.tie`).
* `Scenario.Next`, `Scenario.After`: the runs on a punctual clock, where an attempt and a pause end
  exactly when they are over and a pause is cut short as soon as the token is set.
-/

namespace FsidRegistry.Retry

variable {α : Type}

/-- All that a run meets.  Attempts are counted from zero. -/
structure Scenario (α : Type) where
  policy : Policy
  start : Instant
  /-- How long each attempt takes. -/
  takes : Nat → Nat
  outcome : Nat → Except StoreError α
  /-- How the pause after each attempt is drawn. -/
  draw : Nat → Nat
  /-- When the request is cancelled, if it is. -/
  cancelledAt : Option Instant

namespace Scenario

variable {x : Scenario α} {n : Nat}

/-! ## The timetable -/

def deadline (x : Scenario α) : Instant := x.start + x.policy.deadline.nanos

/-- The pauses from the one after attempt `n` on. -/
def backoff (x : Scenario α) : Nat → Backoff
  | 0 => x.policy.backoff
  | n + 1 => (x.backoff n).grown

/-- The pause after attempt `n`. -/
def pause (x : Scenario α) (n : Nat) : Nat := (x.backoff n).drawn (x.draw n)

/-- When attempt `n` starts, if it is made. -/
def startOf (x : Scenario α) : Nat → Instant
  | 0 => x.start
  | n + 1 => x.startOf n + x.takes n + x.pause n

/-- When attempt `n` ends, if it is made. -/
def endOf (x : Scenario α) (n : Nat) : Instant := x.startOf n + x.takes n

theorem startOf_le_endOf (x : Scenario α) (n : Nat) : x.startOf n ≤ x.endOf n :=
  Nat.le_add_right _ _

theorem endOf_le_startOf (x : Scenario α) (n : Nat) : x.endOf n ≤ x.startOf (n + 1) :=
  Nat.le_add_right _ _

theorem startOf_mono (x : Scenario α) {m n : Nat} (h : m ≤ n) : x.startOf m ≤ x.startOf n := by
  induction h with
  | refl => exact Nat.le_refl _
  | step _ ih => exact Nat.le_trans ih (Nat.le_trans (x.startOf_le_endOf _) (x.endOf_le_startOf _))

/-! ## The last attempt -/

/-- Attempt `n` fails in a way that may pass. -/
structure Fails (x : Scenario α) (n : Nat) (e : StoreError) : Prop where
  outcome : x.outcome n = .error e
  retryable : e.isRetryable = true

/-- A run that makes attempt `n` may end with it, with the given result. -/
inductive Ends (x : Scenario α) (n : Nat) : Except Error α → Prop
  | succeeds (value : α) (h : x.outcome n = .ok value) : Ends x n (.ok value)
  | failsForGood (e : StoreError) (h : x.outcome n = .error e) (hr : e.isRetryable = false) :
    Ends x n (.error (.store e))
  /-- The pause would not end before the deadline. -/
  | runsOut (e : StoreError) (h : x.Fails n e) (hd : x.deadline ≤ x.startOf (n + 1)) :
    Ends x n (.error (.store e))
  /-- The request is cancelled before the pause is over, or at its very end. -/
  | isCancelled (e : StoreError) (t : Instant) (h : x.Fails n e)
      (hd : x.startOf (n + 1) < x.deadline) (ht : x.cancelledAt = some t)
      (hle : t ≤ x.startOf (n + 1)) : Ends x n (.error .cancelled)

/-- A run that makes attempt `n` may go on after it: the pause ends before the deadline, and the
request is not cancelled before. -/
structure GoesOn (x : Scenario α) (n : Nat) : Prop where
  fails : ∃ e, x.Fails n e
  early : x.startOf (n + 1) < x.deadline
  uncancelled : ∀ t, x.cancelledAt = some t → x.startOf (n + 1) ≤ t

/-- Nothing in the scenario overflows before the run ends. -/
structure Fits (x : Scenario α) : Prop where
  deadline : x.deadline < clockEnd
  grows : ∀ n e, (∀ i < n, x.GoesOn i) → x.Fails n e → (x.backoff n).Grows
  wakes : ∀ n e, (∀ i < n, x.GoesOn i) → x.Fails n e → x.startOf (n + 1) < clockEnd

/-- What follows a failure that may pass, by the timetable. -/
theorem Fits.verdict_eq (hx : x.Fits) {e : StoreError} (hmade : ∀ i < n, x.GoesOn i)
    (h : x.Fails n e) (cancelled : Bool) :
    verdict x.deadline (x.backoff n) (x.outcome n) (x.endOf n) (x.draw n) cancelled =
      if x.deadline ≤ x.startOf (n + 1) then .finished (.error (.store e))
      else if cancelled then .finished (.error .cancelled)
      else .pause (x.startOf (n + 1)) (x.backoff (n + 1)) := by
  rw [h.outcome]
  exact verdict_of_retryable h.retryable (hx.grows n e hmade h) (hx.wakes n e hmade h) cancelled

/-- What follows an attempt by the timetable: the run ends with it, or a pause follows that ends
before the deadline. -/
theorem Fits.verdict_cases (hx : x.Fits) (hmade : ∀ i < n, x.GoesOn i) {cancelled : Bool}
    (hset : cancelled = true → ∃ t, x.cancelledAt = some t ∧ t ≤ x.startOf (n + 1)) :
    (∃ result, x.Ends n result ∧
      verdict x.deadline (x.backoff n) (x.outcome n) (x.endOf n) (x.draw n) cancelled =
        .finished result) ∨
    ∃ e, x.Fails n e ∧ x.startOf (n + 1) < x.deadline ∧ cancelled = false ∧
      verdict x.deadline (x.backoff n) (x.outcome n) (x.endOf n) (x.draw n) cancelled =
        .pause (x.startOf (n + 1)) (x.backoff (n + 1)) := by
  cases ho : x.outcome n with
  | ok value => exact Or.inl ⟨.ok value, .succeeds value ho, rfl⟩
  | error e =>
    by_cases hr : e.isRetryable = true
    · have hf : x.Fails n e := ⟨ho, hr⟩
      have hv := hx.verdict_eq hmade hf cancelled
      rw [ho] at hv
      by_cases hd : x.deadline ≤ x.startOf (n + 1)
      · rw [if_pos hd] at hv
        exact Or.inl ⟨_, .runsOut e hf hd, hv⟩
      · rw [if_neg hd] at hv
        have hd' : x.startOf (n + 1) < x.deadline := Nat.lt_of_not_le hd
        cases cancelled with
        | true =>
          obtain ⟨t, ht, hle⟩ := hset rfl
          exact Or.inl ⟨_, .isCancelled e t hf hd' ht hle, hv⟩
        | false => exact Or.inr ⟨e, hf, hd', rfl, hv⟩
    · have hr' : e.isRetryable = false := by simpa using hr
      exact Or.inl ⟨_, .failsForGood e ho hr', verdict_of_permanent hr' cancelled⟩

end Scenario

/-! ## A punctual clock -/

/-- The call of the operation that a run makes when it has just come to an attempt. -/
def TimedRun.calls (p : TimedRun α) : List Instant :=
  match p.run.phase with
  | .attempting => [p.now]
  | _ => []

theorem TimedRun.calls_of_attempting {p : TimedRun α} (h : p.run.phase = .attempting) :
    p.calls = [p.now] := by
  rw [calls, h]

/-- A run on a clock beside the operation that it calls. -/
structure Moment (α : Type) where
  timed : TimedRun α
  /-- When the operation was called. -/
  calls : List Instant
  /-- When the last call returns. -/
  due : Instant

/-- Until when nothing happens by itself. -/
def Moment.quietUntil? (m : Moment α) : Option Instant :=
  match m.timed.run.phase with
  | .attempting => some m.due
  | .pausing wake => if m.timed.cancelled then none else some wake
  | _ => none

namespace Scenario

variable {x : Scenario α} {m m' : Moment α} {n k : Nat}

/-- The run at its start. -/
def started (x : Scenario α) : TimedRun α :=
  ⟨x.start, x.cancelledAt.any (· < x.start), .start x.policy x.start⟩

def first (x : Scenario α) : Moment α := ⟨x.started, x.started.calls, x.start + x.takes 0⟩

/-- What can happen next on a punctual clock.  Time passes no further than to what is due. -/
inductive Next (x : Scenario α) (m : Moment α) : Moment α → Prop
  | waits (nanos : Nat) (limit : Instant) (p : TimedRun α) (hpos : 0 < nanos)
      (hq : m.quietUntil? = some limit) (hl : m.timed.now + nanos ≤ limit)
      (ht : m.timed.cancelled = false → ∀ t, x.cancelledAt = some t → m.timed.now + nanos ≤ t)
      (h : m.timed.step? (.timePasses nanos) = some p) : Next x m { m with timed := p }
  | cancels (p : TimedRun α) (hc : m.timed.cancelled = false)
      (ht : x.cancelledAt = some m.timed.now) (h : m.timed.step? .tokenCancelled = some p) :
    Next x m { m with timed := p }
  | ends (n : Nat) (p : TimedRun α) (hcalls : m.calls.length = n + 1) (hnow : m.timed.now = m.due)
      (h : m.timed.step? (.attemptEnds (x.outcome n) (x.draw n)) = some p) :
    Next x m { m with timed := p }
  | fires (p : TimedRun α) (h : m.timed.step? .timerFires = some p) :
    Next x m ⟨p, m.calls ++ p.calls, p.now + x.takes m.calls.length⟩
  | sees (p : TimedRun α) (h : m.timed.step? .cancellationSeen = some p) :
    Next x m { m with timed := p }

/-- The moments after so many steps. -/
inductive After (x : Scenario α) : Nat → Moment α → Prop
  | first : After x 0 x.first
  | next (k : Nat) (m m' : Moment α) (h : After x k m) (hn : x.Next m m') : After x (k + 1) m'

end Scenario

end FsidRegistry.Retry

import Mathlib.Algebra.GroupWithZero.Nat
import FsidRegistry.Retry.Run

/-!
# The steps of a retried operation

`verdict` decides what follows an attempt, and `TimedRun.step?` puts a run on a clock.  This file
says what each of them can come to.

* `Backoff.pause_eq`: a pause whose bound can grow is drawn and leaves the grown bound.
* `verdict_of_retryable`: the deadline is tested first, the token after it.
* `Run.attemptEnded_cases`: where a run can stand after an attempt.
* `TimedRun.Step`, `TimedRun.step?_eq_some_iff`: the steps of a run as a relation.
-/

namespace FsidRegistry

theorem Duration.nanos_ofNanos {n : Nat} (h : n ≤ 18446744073709551615) :
    (Duration.ofNanos n).nanos = n := by
  refine Nat.min_eq_left (Nat.le_trans h ?_)
  decide

theorem Instant.after_of_lt {now : Instant} {d : Duration} (h : now + d.nanos < clockEnd) :
    now.after d = .ok (now + d.nanos) := if_pos h

theorem Instant.after_of_le {now : Instant} {d : Duration} (h : clockEnd ≤ now + d.nanos) :
    now.after d = .error .instantOverflow := if_neg (Nat.not_lt.mpr h)

namespace Retry

variable {α : Type}

/-! ## Pauses -/

namespace Backoff

/-- The bound of the pauses can grow. -/
def Grows (b : Backoff) : Prop := (b.bound.scale b.multiplier).isOk = true

instance (b : Backoff) : Decidable b.Grows := inferInstanceAs (Decidable (_ = true))

/-- The pauses after the next one.  A bound that cannot grow stays as it is. -/
def grown (b : Backoff) : Backoff :=
  match b.bound.scale b.multiplier with
  | .ok bound => { b with bound := bound.min b.maximum }
  | .error _ => b

/-- How many nanoseconds a draw comes to. -/
def drawn (b : Backoff) (draw : Nat) : Nat := min draw b.largestPause

theorem nanos_drawn (b : Backoff) (draw : Nat) :
    (Duration.ofNanos (b.drawn draw)).nanos = b.drawn draw :=
  Duration.nanos_ofNanos (Nat.le_trans (Nat.min_le_right _ _) (Nat.min_le_right _ _))

theorem pause_eq {b : Backoff} (h : b.Grows) (draw : Nat) :
    b.pause draw = .ok (.ofNanos (b.drawn draw), b.grown) := by
  unfold Grows at h
  cases hb : b.bound.scale b.multiplier with
  | error fault => rw [hb] at h; cases h
  | ok bound =>
    simp only [pause, grown, hb]
    rfl

end Backoff

/-! ## The start of a run -/

theorem Run.start_of_lt {p : Policy} {now : Instant} (h : now + p.deadline.nanos < clockEnd) :
    (start p now : Run α) = ⟨now + p.deadline.nanos, p.backoff, 1, .attempting⟩ := by
  rw [start, Instant.after_of_lt h]

theorem Run.start_of_le {p : Policy} {now : Instant} (h : clockEnd ≤ now + p.deadline.nanos) :
    (start p now : Run α) = ⟨now, p.backoff, 0, .faulted .instantOverflow⟩ := by
  rw [start, Instant.after_of_le h]

/-! ## Counted attempts -/

theorem count_succ (n : Nat) : UInt32.ofNat n + 1 = UInt32.ofNat (n + 1) := by
  rw [UInt32.ofNat_add]
  rfl

/-! ## Verdicts -/

/-- After a failure that may pass, the deadline is tested first and the token after it. -/
theorem verdict_of_retryable {deadline now : Instant} {b : Backoff} {e : StoreError} {draw : Nat}
    (hr : e.isRetryable = true) (hg : b.Grows) (hw : now + b.drawn draw < clockEnd)
    (cancelled : Bool) :
    verdict (α := α) deadline b (.error e) now draw cancelled =
      if deadline ≤ now + b.drawn draw then .finished (.error (.store e))
      else if cancelled then .finished (.error .cancelled)
      else .pause (now + b.drawn draw) b.grown := by
  have hafter : now.after (.ofNanos (b.drawn draw)) = .ok (now + b.drawn draw) := by
    rw [Instant.after_of_lt (by rw [b.nanos_drawn]; exact hw), b.nanos_drawn]
  simp only [verdict, hr, Bool.not_true, Bool.false_eq_true, if_false, Backoff.pause_eq hg, hafter]

theorem verdict_of_permanent {deadline now : Instant} {b : Backoff} {e : StoreError} {draw : Nat}
    (hr : e.isRetryable = false) (cancelled : Bool) :
    verdict (α := α) deadline b (.error e) now draw cancelled = .finished (.error (.store e)) := by
  simp only [verdict, hr, Bool.not_false, if_true]

theorem Run.attemptEnded_of_finished {r : Run α} {outcome : Except StoreError α} {now : Instant}
    {draw : Nat} {cancelled : Bool} {result : Except Error α}
    (h : verdict r.deadline r.backoff outcome now draw cancelled = .finished result) :
    r.attemptEnded outcome now draw cancelled = { r with phase := .finished result } := by
  rw [attemptEnded, h]

theorem Run.attemptEnded_of_pause {r : Run α} {outcome : Except StoreError α} {now wake : Instant}
    {draw : Nat} {cancelled : Bool} {next : Backoff}
    (h : verdict r.deadline r.backoff outcome now draw cancelled = .pause wake next) :
    r.attemptEnded outcome now draw cancelled =
      { r with phase := .pausing wake, backoff := next } := by
  rw [attemptEnded, h]

theorem Run.attemptEnded_of_faulted {r : Run α} {outcome : Except StoreError α} {now : Instant}
    {draw : Nat} {cancelled : Bool} {fault : Fault}
    (h : verdict r.deadline r.backoff outcome now draw cancelled = .faulted fault) :
    r.attemptEnded outcome now draw cancelled = { r with phase := .faulted fault } := by
  rw [attemptEnded, h]

theorem Run.attempts_attemptEnded (r : Run α) (outcome : Except StoreError α) (now : Instant)
    (draw : Nat) (cancelled : Bool) :
    (r.attemptEnded outcome now draw cancelled).attempts = r.attempts := by
  rw [attemptEnded]
  split <;> rfl

/-- Where a run can stand after an attempt.  It pauses only if the token is not set, and is cancelled
only if it is. -/
theorem Run.attemptEnded_cases (r : Run α) (outcome : Except StoreError α) (now : Instant)
    (draw : Nat) (cancelled : Bool) :
    (∃ result, (r.attemptEnded outcome now draw cancelled).phase = .finished result ∧
      (result = .error .cancelled → cancelled = true)) ∨
    (∃ wake, (r.attemptEnded outcome now draw cancelled).phase = .pausing wake ∧
      cancelled = false) ∨
    ∃ fault, (r.attemptEnded outcome now draw cancelled).phase = .faulted fault := by
  unfold attemptEnded verdict
  cases outcome with
  | ok value => exact Or.inl ⟨.ok value, rfl, by simp⟩
  | error e =>
    dsimp only
    by_cases hr : (!e.isRetryable) = true
    · rw [if_pos hr]
      exact Or.inl ⟨_, rfl, by simp⟩
    rw [if_neg hr]
    cases r.backoff.pause draw with
    | error fault => exact Or.inr (Or.inr ⟨fault, rfl⟩)
    | ok pause =>
      dsimp only
      cases now.after pause.1 with
      | error fault => exact Or.inr (Or.inr ⟨fault, rfl⟩)
      | ok wake =>
        dsimp only
        by_cases hd : r.deadline ≤ wake
        · rw [if_pos hd]
          exact Or.inl ⟨_, rfl, by simp⟩
        rw [if_neg hd]
        cases cancelled with
        | true => exact Or.inl ⟨_, rfl, by simp⟩
        | false => exact Or.inr (Or.inl ⟨wake, rfl, rfl⟩)

/-! ## Steps on a clock -/

namespace TimedRun

variable {p q : TimedRun α} {e : Event α}

/-- The steps of a run on a clock. -/
inductive Step (p : TimedRun α) : Event α → TimedRun α → Prop
  | timePasses (nanos : Nat) : Step p (.timePasses nanos) { p with now := p.now + nanos }
  | tokenCancelled : Step p .tokenCancelled { p with cancelled := true }
  | attemptEnds (outcome : Except StoreError α) (draw : Nat) (h : p.run.phase = .attempting) :
    Step p (.attemptEnds outcome draw)
      { p with run := p.run.attemptEnded outcome p.now draw p.cancelled }
  | timerFires (wake : Instant) (h : p.run.phase = .pausing wake) (hw : wake ≤ p.now) :
    Step p .timerFires { p with run := p.run.resume }
  | cancellationSeen (wake : Instant) (h : p.run.phase = .pausing wake) (hc : p.cancelled = true) :
    Step p .cancellationSeen { p with run := p.run.cancel }

theorem step?_eq_some_iff : p.step? e = some q ↔ Step p e q := by
  constructor
  · intro h
    cases e with
    | timePasses nanos => cases h; exact .timePasses nanos
    | tokenCancelled => cases h; exact .tokenCancelled
    | attemptEnds outcome draw =>
      simp only [step?] at h
      split at h <;> cases h
      exact .attemptEnds outcome draw ‹_›
    | timerFires =>
      simp only [step?] at h
      split at h
      · split at h <;> cases h
        exact .timerFires _ ‹_› ‹_›
      · cases h
    | cancellationSeen =>
      simp only [step?] at h
      split at h
      · split at h <;> cases h
        exact .cancellationSeen _ ‹_› ‹_›
      · cases h
  · intro h
    cases h <;> simp_all [step?]

end TimedRun

end Retry

end FsidRegistry

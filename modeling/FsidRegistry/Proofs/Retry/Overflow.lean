import FsidRegistry.Proofs.Binary64.Seconds
import FsidRegistry.Proofs.Retry.Step

/-!
# What a policy cannot afford

The bound of the pauses is multiplied before the maximum is applied to it, and the deadline and every
pause are added to the clock, so a policy can be asked for a duration or an instant that does not
exist.  This file says exactly when a policy comes to that, and that it comes to nothing worse.

* `Backoff.isOk_pauses_iff`: pauses are drawn up to the first bound that cannot be multiplied.
* `verdict_faulted_iff`: what follows a failure is a fault only for that reason, or because the clock
  ends within the pause.
* `Policy.grows_backoffAfter`: if even the maximum could be multiplied, every bound can, because
  multiplying is monotone.
* `Policy.faults_only_by_overflow`: the runs of every policy, for all events.
-/

namespace FsidRegistry

theorem Duration.eq_of_scale_eq_error {d : Duration} {factor : Binary64} {fault : Fault}
    (h : d.scale factor = .error fault) : fault = .durationOverflow := by
  unfold scale ofBinary64 at h
  split at h
  · cases h; rfl
  · cases h; rfl
  · dsimp only at h
    split at h <;> cases h
    rfl

theorem Duration.nanos_min (a b : Duration) : (a.min b).nanos = Nat.min a.nanos b.nanos := by
  rw [Duration.min]
  split
  · exact (Nat.min_eq_left ‹_›).symm
  · exact (Nat.min_eq_right (Nat.le_of_not_le ‹_›)).symm

namespace Retry

variable {α : Type}

/-! ## One pause -/

namespace Backoff

variable {b : Backoff}

theorem pause_of_not_grows (h : ¬ b.Grows) (draw : Nat) :
    b.pause draw = .error .durationOverflow := by
  unfold Grows at h
  cases hb : b.bound.scale b.multiplier with
  | ok bound => rw [hb] at h; exact absurd rfl h
  | error fault =>
    obtain rfl := Duration.eq_of_scale_eq_error hb
    simp only [pause, hb]
    rfl

theorem maximum_grown (b : Backoff) : b.grown.maximum = b.maximum := by
  rw [grown]
  split <;> rfl

theorem multiplier_grown (b : Backoff) : b.grown.multiplier = b.multiplier := by
  rw [grown]
  split <;> rfl

theorem bound_grown_le (h : b.bound.nanos ≤ b.maximum.nanos) :
    b.grown.bound.nanos ≤ b.grown.maximum.nanos := by
  rw [grown]
  split
  · rw [Duration.nanos_min]
    exact Nat.min_le_right _ _
  · exact h

/-- The longest pause up to the maximum, in nanoseconds. -/
def longestPause (b : Backoff) : Nat := Nat.min b.maximum.nanos 18446744073709551615

theorem drawn_le (h : b.bound.nanos ≤ b.maximum.nanos) (draw : Nat) :
    b.drawn draw ≤ b.longestPause := by
  refine Nat.le_trans (Nat.min_le_right _ _) (Nat.le_min.mpr ⟨?_, Nat.min_le_right _ _⟩)
  exact Nat.le_trans (Nat.min_le_left _ _) h

/-- The pauses that a list of draws comes to, and those still to come. -/
def pauses (b : Backoff) : List Nat → Except Fault (List Duration × Backoff)
  | [] => return ([], b)
  | draw :: draws => do
    let (pause, b) ← b.pause draw
    let (later, b) ← b.pauses draws
    return (pause :: later, b)

/-- Pauses are drawn until one of them has a bound that does not grow. -/
theorem isOk_pauses_iff (b : Backoff) (draws : List Nat) :
    (b.pauses draws).isOk = true ↔ ∀ i < draws.length, (grown^[i] b).Grows := by
  induction draws generalizing b with
  | nil => simp [pauses, pure, Except.pure, Except.isOk, Except.toBool]
  | cons draw draws ih =>
    rw [List.length_cons, Nat.forall_lt_succ_left]
    by_cases h : b.Grows
    · have hcons : (b.pauses (draw :: draws)).isOk = (b.grown.pauses draws).isOk := by
        rw [pauses, pause_eq h]
        simp only [bind, Except.bind]
        cases b.grown.pauses draws <;> rfl
      rw [hcons, ih b.grown]
      exact (and_iff_right h).symm
    · have hcons : (b.pauses (draw :: draws)).isOk = false := by
        rw [pauses, pause_of_not_grows h]
        rfl
      rw [hcons]
      exact ⟨fun he => absurd he Bool.false_ne_true, fun h' => absurd h'.1 h⟩

end Backoff

/-! ## One verdict -/

/-- What follows an attempt is a fault just if the attempt failed in a way that may pass, and the
bound cannot be multiplied or the clock ends within the pause. -/
theorem verdict_faulted_iff {deadline now : Instant} {b : Backoff} {outcome : Except StoreError α}
    {draw : Nat} {cancelled : Bool} :
    (∃ fault, verdict deadline b outcome now draw cancelled = .faulted fault) ↔
      (∃ e, outcome = .error e ∧ e.isRetryable = true) ∧
        (¬ b.Grows ∨ clockEnd ≤ now + b.drawn draw) := by
  cases outcome with
  | ok value => simp [verdict]
  | error e =>
    cases hr : e.isRetryable with
    | false => simp [verdict_of_permanent hr, hr]
    | true =>
      by_cases hg : b.Grows
      · by_cases hw : now + b.drawn draw < clockEnd
        · rw [verdict_of_retryable hr hg hw]
          have hnone : ¬ clockEnd ≤ now + b.drawn draw := Nat.not_le.mpr hw
          simp only [hg, hnone, not_true_eq_false, or_self, and_false, iff_false, not_exists]
          intro fault
          split
          · simp
          · split <;> simp
        · have hafter : now.after (.ofNanos (b.drawn draw)) = .error .instantOverflow :=
            Instant.after_of_le (by rw [b.nanos_drawn]; exact Nat.le_of_not_lt hw)
          simp [verdict, hr, Backoff.pause_eq hg, hafter, Nat.le_of_not_lt hw]
      · simp [verdict, hr, Backoff.pause_of_not_grows hg, hg]

/-- A pause leaves the grown bound. -/
theorem eq_grown_of_verdict_eq_pause {deadline now wake : Instant} {b next : Backoff}
    {outcome : Except StoreError α} {draw : Nat} {cancelled : Bool}
    (h : verdict deadline b outcome now draw cancelled = .pause wake next) : next = b.grown := by
  have hfault : ¬ ∃ fault, verdict deadline b outcome now draw cancelled = .faulted fault := by
    rw [h]
    simp
  rw [verdict_faulted_iff] at hfault
  cases outcome with
  | ok value => cases h
  | error e =>
    cases hr : e.isRetryable with
    | false => rw [verdict_of_permanent hr] at h; cases h
    | true =>
      have hfits : b.Grows ∧ now + b.drawn draw < clockEnd := by simpa [hr] using hfault
      rw [verdict_of_retryable hr hfits.1 hfits.2] at h
      split at h
      · cases h
      · split at h <;> cases h
        rfl

/-! ## All pauses of a policy -/

namespace Policy

/-- The pauses of a policy that are still to come after some of them. -/
def backoffAfter (p : Policy) (n : Nat) : Backoff := Backoff.grown^[n] p.backoff

theorem backoffAfter_succ (p : Policy) (n : Nat) :
    p.backoffAfter (n + 1) = (p.backoffAfter n).grown := Function.iterate_succ_apply' _ _ _

theorem maximum_backoffAfter (p : Policy) (n : Nat) : (p.backoffAfter n).maximum = p.maximum := by
  induction n with
  | zero => rfl
  | succ n ih => rw [backoffAfter_succ, Backoff.maximum_grown, ih]

theorem multiplier_backoffAfter (p : Policy) (n : Nat) :
    (p.backoffAfter n).multiplier = p.multiplier.atLeastOne := by
  induction n with
  | zero => rfl
  | succ n ih => rw [backoffAfter_succ, Backoff.multiplier_grown, ih]

theorem bound_backoffAfter_le (p : Policy) (n : Nat) :
    (p.backoffAfter n).bound.nanos ≤ (p.backoffAfter n).maximum.nanos := by
  induction n with
  | zero =>
    show (p.initial.min p.maximum).nanos ≤ p.maximum.nanos
    rw [Duration.nanos_min]
    exact Nat.min_le_right _ _
  | succ n ih =>
    rw [backoffAfter_succ]
    exact Backoff.bound_grown_le ih

/-- The longest pause that the policy allows, in nanoseconds. -/
def longestPause (p : Policy) : Nat := p.backoff.longestPause

theorem drawn_backoffAfter_le (p : Policy) (n draw : Nat) :
    (p.backoffAfter n).drawn draw ≤ p.longestPause := by
  have hmax : (p.backoffAfter n).longestPause = p.longestPause := by
    rw [Backoff.longestPause, maximum_backoffAfter]
    rfl
  rw [← hmax]
  exact Backoff.drawn_le (p.bound_backoffAfter_le n) draw

/-- The bound could be multiplied even at the maximum. -/
def GrowsAtMaximum (p : Policy) : Prop := (p.maximum.scale p.multiplier.atLeastOne).isOk = true

instance (p : Policy) : Decidable p.GrowsAtMaximum := inferInstanceAs (Decidable (_ = true))

theorem grows_backoffAfter {p : Policy} (h : p.GrowsAtMaximum) (n : Nat) :
    (p.backoffAfter n).Grows := by
  unfold Backoff.Grows
  rw [multiplier_backoffAfter]
  refine Duration.isOk_scale_of_le ?_ h
  rw [← p.maximum_backoffAfter n]
  exact p.bound_backoffAfter_le n

end Policy

/-! ## All runs of a policy -/

/-- An instant or a duration that a run of a policy needs does not exist: the deadline, or the next
bound or the end of the pause after the attempt that followed `n` pauses. -/
inductive Overflows (p : Policy) (start now : Instant) (n : Nat) : Prop
  | deadline (h : clockEnd ≤ start + p.deadline.nanos)
  | bound (h : ¬ (p.backoffAfter n).Grows)
  | pause (h : clockEnd ≤ now + p.longestPause)

/-- Whether an event is the end of a pause. -/
def Event.endsPause : Event α → Bool
  | .timerFires => true
  | _ => false

/-- Where a run of a policy stands after `n` pauses. -/
inductive Stands (p : Policy) (start : Instant) (n : Nat) (q : TimedRun α) : Prop
  | attempting (hp : q.run.phase = .attempting) (hb : q.run.backoff = p.backoffAfter n)
  | pausing (wake : Instant) (hp : q.run.phase = .pausing wake)
      (hb : q.run.backoff = p.backoffAfter (n + 1))
  | finished (result : Except Error α) (hp : q.run.phase = .finished result)
  | faulted (fault : Fault) (hp : q.run.phase = .faulted fault) (h : Overflows p start q.now n)

theorem stands_start (p : Policy) (start : Instant) (cancelled : Bool) :
    Stands p start 0 (⟨start, cancelled, Run.start p start⟩ : TimedRun α) := by
  rcases Nat.lt_or_ge (start + p.deadline.nanos) clockEnd with hd | hd
  · rw [Run.start_of_lt hd]
    exact .attempting rfl rfl
  · rw [Run.start_of_le hd]
    exact .faulted _ rfl (.deadline hd)

theorem Overflows.mono {p : Policy} {start now later : Instant} {n : Nat} (hle : now ≤ later)
    (h : Overflows p start now n) : Overflows p start later n := by
  cases h with
  | deadline h => exact .deadline h
  | bound h => exact .bound h
  | pause h => exact .pause (Nat.le_trans h (Nat.add_le_add_right hle _))

theorem Stands.attemptEnds {p : Policy} {start : Instant} {q : TimedRun α} {n : Nat}
    (hb : q.run.backoff = p.backoffAfter n) (outcome : Except StoreError α) (draw : Nat) :
    Stands p start n { q with run := q.run.attemptEnded outcome q.now draw q.cancelled } := by
  cases hv : verdict q.run.deadline q.run.backoff outcome q.now draw q.cancelled with
  | finished result =>
    rw [Run.attemptEnded_of_finished hv]
    exact .finished result rfl
  | faulted fault =>
    obtain ⟨-, hover⟩ := verdict_faulted_iff.mp ⟨fault, hv⟩
    rw [hb] at hover
    rw [Run.attemptEnded_of_faulted hv]
    refine .faulted fault rfl ?_
    rcases hover with hg | hw
    · exact .bound hg
    · exact .pause (Nat.le_trans hw (Nat.add_le_add_left (p.drawn_backoffAfter_le n draw) _))
  | pause wake next =>
    rw [Run.attemptEnded_of_pause hv]
    refine .pausing wake rfl ?_
    rw [p.backoffAfter_succ, ← hb]
    exact eq_grown_of_verdict_eq_pause hv

theorem Stands.step {p : Policy} {start : Instant} {n : Nat} {q r : TimedRun α} {e : Event α}
    (h : Stands p start n q) (hs : TimedRun.Step q e r) :
    Stands p start (n + e.endsPause.toNat) r := by
  cases hs with
  | timePasses nanos =>
    cases h with
    | attempting hp hb => exact .attempting hp hb
    | pausing wake hp hb => exact .pausing wake hp hb
    | finished result hp => exact .finished result hp
    | faulted fault hp hover => exact .faulted fault hp (hover.mono (Nat.le_add_right _ _))
  | tokenCancelled =>
    cases h with
    | attempting hp hb => exact .attempting hp hb
    | pausing wake hp hb => exact .pausing wake hp hb
    | finished result hp => exact .finished result hp
    | faulted fault hp hover => exact .faulted fault hp hover
  | attemptEnds outcome draw hp' =>
    cases h with
    | attempting hp hb => exact .attemptEnds hb outcome draw
    | pausing wake hp => rw [hp'] at hp; cases hp
    | finished result hp => rw [hp'] at hp; cases hp
    | faulted fault hp => rw [hp'] at hp; cases hp
  | timerFires wake hp' hw =>
    cases h with
    | attempting hp => rw [hp'] at hp; cases hp
    | pausing wake hp hb => exact .attempting rfl hb
    | finished result hp => rw [hp'] at hp; cases hp
    | faulted fault hp => rw [hp'] at hp; cases hp
  | cancellationSeen wake hp' hc => exact .finished _ rfl

theorem Stands.steps {p : Policy} {start : Instant} {n : Nat} {q r : TimedRun α}
    {events : List (Event α)} (h : Stands p start n q) (hs : q.steps? events = some r) :
    Stands p start (n + events.countP Event.endsPause) r := by
  induction events generalizing n q with
  | nil => cases hs; exact h
  | cons e es ih =>
    obtain ⟨q', hstep, hrest⟩ := Option.bind_eq_some_iff.mp hs
    have hr := ih (h.step (TimedRun.step?_eq_some_iff.mp hstep)) hrest
    have hcount : (e :: es).countP Event.endsPause =
        e.endsPause.toNat + es.countP Event.endsPause := by
      rw [List.countP_cons, Nat.add_comm]
      cases e.endsPause <;> rfl
    rwa [hcount, ← Nat.add_assoc]

/-- The multiplication comes before the maximum, so a policy can ask for a bound that no duration
holds, and its deadline can lie beyond the end of the clock. -/
theorem Policy.can_overflow :
    ({ multiplier := .infinite false } : Policy).backoff.pause 0 = .error .durationOverflow ∧
    ({ multiplier := .ofNat (10 ^ 30) } : Policy).backoff.pause 0 = .error .durationOverflow ∧
    (Run.start (α := Nat) { deadline := .ofSeconds (2 ^ 63) } 0).phase =
      .faulted .instantOverflow := by
  refine ⟨by decide +kernel, by decide +kernel, ?_⟩
  rw [Run.start_of_le (by decide)]

/-- **A policy faults only by overflow**: its pauses can be drawn up to the first bound that cannot be
multiplied, and there is none if even the maximum can.  A run of the policy, whatever happens to it,
faults only if its deadline lies beyond the end of the clock, the bound after as many pauses as it has
made cannot be multiplied, or the clock ends within the longest pause. -/
theorem Policy.faults_only_by_overflow (p : Policy) :
    (∀ draws, (p.backoff.pauses draws).isOk = true ↔ ∀ i < draws.length, (p.backoffAfter i).Grows) ∧
    (p.GrowsAtMaximum → ∀ n, (p.backoffAfter n).Grows) ∧
    ∀ start cancelled (events : List (Event α)) q fault,
      (⟨start, cancelled, Run.start p start⟩ : TimedRun α).steps? events = some q →
      q.run.phase = .faulted fault →
      clockEnd ≤ start + p.deadline.nanos ∨
      ¬ (p.backoffAfter (events.countP Event.endsPause)).Grows ∨
      clockEnd ≤ q.now + p.longestPause := by
  refine ⟨p.backoff.isOk_pauses_iff, Policy.grows_backoffAfter, ?_⟩
  intro start cancelled events q fault hs hp
  cases (stands_start p start cancelled).steps hs with
  | attempting hp' => rw [hp] at hp'; cases hp'
  | pausing wake hp' => rw [hp] at hp'; cases hp'
  | finished result hp' => rw [hp] at hp'; cases hp'
  | faulted fault' hp' hover =>
    cases hover with
    | deadline h => exact Or.inl h
    | bound h =>
      rw [Nat.zero_add] at h
      exact Or.inr (Or.inl h)
    | pause h => exact Or.inr (Or.inr h)

/-- The default policy does not fault as long as the clock goes on for another minute. -/
theorem Policy.faults_only_by_overflow_default :
    ({} : Policy).GrowsAtMaximum ∧
    (∀ draws, (({} : Policy).backoff.pauses draws).isOk = true) ∧
    ∀ (events : List (Event Nat)) q fault,
      (⟨0, false, Run.start {} 0⟩ : TimedRun Nat).steps? events = some q →
      q.now + 60 * nanosPerSecond < clockEnd → q.run.phase ≠ .faulted fault := by
  have hmax : ({} : Policy).GrowsAtMaximum := by decide +kernel
  obtain ⟨hpauses, hgrows, hruns⟩ := Policy.faults_only_by_overflow (α := Nat) {}
  refine ⟨hmax, fun draws => (hpauses draws).mpr fun n _ => hgrows hmax n, ?_⟩
  intro events q fault hs hnow hp
  rcases hruns 0 false events q fault hs hp with hd | hg | hw
  · revert hd
    decide
  · exact hg (hgrows hmax _)
  · have hlongest : ({} : Policy).longestPause = 60 * nanosPerSecond := by decide +kernel
    rw [hlongest] at hw
    exact Nat.not_le.mpr hnow hw

end Retry

end FsidRegistry

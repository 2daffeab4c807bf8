import FsidRegistry.Cache.Call
import FsidRegistry.Outcome
import FsidRegistry.Proofs.Retry.Step

/-!
# Classes of store errors

A store error is classified in four places, each by its own cases: as a missing row, as a conflict, as
one that may pass, and by the outcome of the request that ends with it.  The cache goes by the first
two, a retried operation by the third, and the record of a request by the last.

* `StoreError.isNotFound_iff`, `StoreError.isConflict_iff`: the errors of the first two classes.
* `StoreError.IsRetried`, `StoreError.EndsRun`: what an error does to an operation that is retried.
* `StoreError.classes_agree_but_for_outcome`: the first three agree for every error, and the last agrees
  with them for every error but one.
* `StoreError.missing_row_is_recorded_as_error`: that one is the row that the driver did not find.
-/

namespace FsidRegistry

namespace StoreError

variable {e : StoreError} {α : Type}

/-- A row is missing if the store says so or the driver does. -/
theorem isNotFound_iff : e.isNotFound = true ↔ e = .notFound ∨ e = .driver .rowNotFound := by
  constructor
  · intro h
    cases e with
    | notFound => exact Or.inl rfl
    | driver error =>
      cases error with
      | rowNotFound => exact Or.inr rfl
      | _ => cases h
    | _ => cases h
  · intro h
    rcases h with rfl | rfl <;> rfl

/-- A path is taken if the store says so, or the database for a violated constraint, whatever the code
and the text of its report. -/
theorem isConflict_iff : e.isConflict = true ↔
    (∃ path, e = .conflict path) ∨
      ∃ failure, e = .driver (.database failure) ∧ failure.unique = true := by
  constructor
  · intro h
    cases e with
    | conflict path => exact Or.inl ⟨path, rfl⟩
    | driver error =>
      cases error with
      | database failure => exact Or.inr ⟨failure, rfl, h⟩
      | _ => cases h
    | _ => cases h
  · intro h
    rcases h with ⟨path, rfl⟩ | ⟨failure, rfl, hu⟩
    · rfl
    · exact hu

theorem not_isRetryable_of_isNotFound (h : e.isNotFound = true) : e.isRetryable = false := by
  rcases isNotFound_iff.mp h with rfl | rfl <;> rfl

theorem not_isConflict_of_isNotFound (h : e.isNotFound = true) : e.isConflict = false := by
  rcases isNotFound_iff.mp h with rfl | rfl <;> rfl

theorem isRetryable_of_isConflict (h : e.isConflict = true) : e.isRetryable = true := by
  rcases isConflict_iff.mp h with ⟨path, rfl⟩ | ⟨failure, rfl, hu⟩
  · rfl
  · show (failure.unique || failure.code.any DriverError.isRetryableCode) = true
    rw [hu, Bool.true_or]

/-- The outcome knows one of the two ways in which a row is missing. -/
theorem outcome_eq_notFound_iff : Outcome.of (.error (.store e)) = .notFound ↔ e = .notFound := by
  constructor
  · intro h
    cases e with
    | notFound => rfl
    | _ => cases h
  · intro h
    rw [h]
    rfl

/-! ## Operations that are retried -/

/-- After the error, an operation is tried again, unless the next pause reaches the deadline or the token
is set. -/
def IsRetried (e : StoreError) (α : Type) : Prop :=
  ∀ (r : Retry.Run α) (now : Instant) (draw : Nat), r.backoff.Grows →
    now + r.backoff.drawn draw < clockEnd → now + r.backoff.drawn draw < r.deadline →
    (r.attemptEnded (.error e) now draw false).phase = .pausing (now + r.backoff.drawn draw)

/-- The error ends an operation at once and is its result. -/
def EndsRun (e : StoreError) (α : Type) : Prop :=
  ∀ (r : Retry.Run α) (now : Instant) (draw : Nat) (cancelled : Bool),
    (r.attemptEnded (.error e) now draw cancelled).phase = .finished (.error (.store e))

theorem isRetried_of_isRetryable (h : e.isRetryable = true) : e.IsRetried α := by
  intro r now draw hg hend hdeadline
  have hv : Retry.verdict (α := α) r.deadline r.backoff (.error e) now draw false =
      .pause (now + r.backoff.drawn draw) r.backoff.grown := by
    rw [Retry.verdict_of_retryable h hg hend, if_neg (Nat.not_le.mpr hdeadline)]
    rfl
  rw [Retry.Run.attemptEnded_of_pause hv]

theorem endsRun_of_not_isRetryable (h : e.isRetryable = false) : e.EndsRun α := by
  intro r now draw cancelled
  rw [Retry.Run.attemptEnded_of_finished (Retry.verdict_of_permanent h cancelled)]

/-- **The classes of a store error agree, but for one outcome.**  A missing row is neither a conflict nor
retried, and a conflict is always retried.  A request that ends with the error is recorded as one that
found nothing exactly if the error is a missing row that the driver did not report. -/
theorem classes_agree_but_for_outcome (e : StoreError) :
    (e.isNotFound = true → e.isRetryable = false ∧ e.isConflict = false ∧ ∀ α, e.EndsRun α) ∧
    (e.isConflict = true → e.isRetryable = true ∧ ∀ α, e.IsRetried α) ∧
    (Outcome.of (.error (.store e)) = .notFound ↔
      e.isNotFound = true ∧ e ≠ .driver .rowNotFound) := by
  refine ⟨fun h => ?_, fun h => ?_, ?_⟩
  · have hr := not_isRetryable_of_isNotFound h
    exact ⟨hr, not_isConflict_of_isNotFound h, fun α => endsRun_of_not_isRetryable hr⟩
  · have hr := isRetryable_of_isConflict h
    exact ⟨hr, fun α => isRetried_of_isRetryable hr⟩
  · rw [outcome_eq_notFound_iff, isNotFound_iff]
    constructor
    · intro h
      exact ⟨Or.inl h, fun hd => by rw [h] at hd; cases hd⟩
    · intro h
      exact h.1.resolve_right h.2

/-- A row that the driver did not find ends an operation, and a violated constraint has it tried again. -/
theorem classes_agree_but_for_outcome_of_driver :
    (isNotFound (.driver .rowNotFound) = true ∧ EndsRun (.driver .rowNotFound) Pair) ∧
      ∃ e : StoreError, e.isConflict = true ∧
        ((Retry.Run.start {} 0 : Retry.Run Pair).attemptEnded (.error e) 0 20000000 false).phase =
          .pausing 20000000 := by
  refine ⟨⟨rfl, ((classes_agree_but_for_outcome _).1 rfl).2.2 Pair⟩, ?_⟩
  let e : StoreError := .driver (.database ⟨"UNIQUE constraint failed: fsids.path", some "2067", true⟩)
  have hretried := ((classes_agree_but_for_outcome e).2.1 rfl).2 Pair
  exact ⟨e, rfl, hretried (.start {} 0) 0 20000000 (by decide +kernel) (by decide +kernel)
    (by decide +kernel)⟩

/-- A row that the driver did not find is missing, and its request is recorded as one that failed. -/
theorem missing_row_is_recorded_as_error :
    isNotFound (.driver .rowNotFound) = true ∧
      Outcome.of (.error (.store (.driver .rowNotFound))) = .error ∧
      ¬ (Outcome.of (.error (.store (.driver .rowNotFound))) = .notFound ↔
        isNotFound (.driver .rowNotFound) = true) := by
  refine ⟨rfl, rfl, fun h => ?_⟩
  have hfound := h.mpr rfl
  cases hfound

end StoreError

end FsidRegistry

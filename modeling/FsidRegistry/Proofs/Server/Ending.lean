import FsidRegistry.Proofs.Server.Step

/-!
# How an accept loop ends

An accept loop tests in each round whether it is asked to end, and accepts afterwards.  What it can
end with once it is asked depends on where it stands then.

* `Step.clear`: a loop that is not about to accept, nor has failed, stays so once it is asked to
  end.
* `not_failed_of_clear`: such a loop does not end with a failure to accept.
* `serve_fails_after_stop`: a loop past its test can, even after the listener is closed.
-/

namespace FsidRegistry

/-- Whether an accept loop is about to accept or has failed to. -/
def ServePhase.mayFail : ServePhase → Bool
  | .accepting | .leaving (.failed _) | .notifying (.failed _) | .ended (.failed _) => true
  | _ => false

namespace Server

variable {η : Type} {s t : Server η} {loop : Nat} {e : ServerEvent}

/-- An accept loop is asked to end and is not about to accept, nor has it failed. -/
structure Clear (s : Server η) (loop : Nat) : Prop where
  requested : s.stopRequested = true
  phase : ∀ p, s.serves.get? loop = some p → p.mayFail = false

/-- A loop moves on to a phase in which it cannot fail. -/
theorem Clear.insert (h : Clear s loop) {i : Nat} {q : ServePhase}
    (hstop : t.stopRequested = s.stopRequested) (hq : i = loop → q.mayFail = false)
    (ht : t.serves = s.serves.insert i q) : Clear t loop := by
  refine ⟨hstop.trans h.requested, fun p hp => ?_⟩
  rw [ht, Dictionary.get?_insert] at hp
  split at hp
  · cases hp
    exact hq ‹_›
  · exact h.phase p hp

theorem ServeStep.clear {i : Nat} {p : ServePhase} {e : ServeEvent}
    (hp : s.serves.get? i = some p) (h : Clear s loop) (hstep : ServeStep s i p e t) :
    Clear t loop := by
  -- What the loop could not do before, it cannot do now.
  have hbefore : i = loop → p.mayFail = false := by
    rintro rfl
    exact h.phase p hp
  cases hstep with
  | polls =>
    refine h.insert rfl (fun _ => ?_) rfl
    rw [if_pos h.requested]
    rfl
  | acceptFails => exact h.insert rfl (fun hi => nomatch hbefore hi) rfl
  | leaves ending => exact h.insert rfl (fun hi => by cases ending <;> exact hbefore hi) rfl
  | notifies ending => exact h.insert rfl (fun hi => by cases ending <;> exact hbefore hi) rfl
  | _ => exact h.insert rfl (fun _ => rfl) rfl

theorem StopStep.clear {n : Nat} {stop : Stop} {e : StopEvent} (h : Clear s loop)
    (hstep : StopStep s n stop e t) : Clear t loop := by
  cases hstep with
  | requests => exact ⟨rfl, h.phase⟩
  | _ => exact ⟨h.requested, h.phase⟩

/-- **No step of any task makes a loop fail that is asked to end in time.** -/
theorem Step.clear (h : Clear s loop) (hstep : Step s e t) : Clear t loop := by
  cases hstep with
  | beginServe => exact h.insert rfl (fun _ => rfl) rfl
  | serve i p _ _ hp hstep => exact hstep.clear hp h
  | stop _ _ _ _ _ hstep => exact hstep.clear h
  | connection => exact ⟨h.requested, h.phase⟩
  | untracks => exact ⟨h.requested, h.phase⟩
  | announces => exact ⟨h.requested, h.phase⟩
  | beginStop => exact ⟨h.requested, h.phase⟩

theorem Steps.clear (h : Clear s loop) (hsteps : Steps s t) : Clear t loop := by
  induction hsteps with
  | refl => exact h
  | tail _ hn ih =>
    obtain ⟨e, he⟩ := hn
    exact (step?_eq_some_iff.mp he).clear ih

/-- A loop that is asked to end before its test does not end with a failure to accept. -/
theorem not_failed_of_clear (h : Clear s loop) (hsteps : Steps s t) (error : IoError) :
    t.serves.get? loop ≠ some (.ended (.failed error)) := fun hp => by
  cases (hsteps.clear h).phase _ hp

/-- A loop past its test can: the stop begins, asks the loops to end and closes the listener, and
then the loop fails to accept. -/
theorem serve_fails_after_stop :
    ∃ (s t : Server Unit) (es : List ServerEvent) (stop : Stop),
      Reachable s ∧ s.stopRequested = true ∧ s.stops.get? 0 = some stop ∧
      stop.phase = .awaitingLoops .registering ∧ s.steps? es = some t ∧
      t.serves.get? 0 = some (.ended (.failed (.system .invalidArgument))) := by
  let new : Server Unit := { listener := ⟨0, some "/run/fsidd.sock"⟩ }
  let before : List ServerEvent :=
    [.beginServe, .serve 0 .enters, .serve 0 .marks, .serve 0 .polls, .beginStop false .zero,
      .stop 0 .marks, .stop 0 .notifies, .stop 0 .requests, .stop 0 (.closes .removed)]
  let es : List ServerEvent :=
    [.serve 0 (.acceptFails (.system .invalidArgument)), .serve 0 .leaves, .serve 0 .notifies]
  have hrun : (new.steps? before).any (fun s => s.stopRequested &&
      (s.stops.get? 0).any (fun stop => decide (stop.phase = .awaitingLoops .registering)) &&
      (s.steps? es).any fun t =>
        decide (t.serves.get? 0 = some (.ended (.failed (.system .invalidArgument))))) = true := by
    decide +kernel
  simp only [Option.any_eq_true, Bool.and_eq_true, decide_eq_true_eq] at hrun
  obtain ⟨s, hs, ⟨hrequested, stop, hstop, hp⟩, t, ht, hended⟩ := hrun
  exact ⟨s, t, es, stop, ⟨_, _, steps_of_steps? hs⟩, hrequested, hstop, hp, ht, hended⟩

end Server

end FsidRegistry

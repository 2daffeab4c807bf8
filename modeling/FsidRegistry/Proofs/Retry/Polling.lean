import FsidRegistry.Proofs.Retry.Step

/-!
# Runs that are polled

A task carries a run.  What the run waits for becomes ready at any time: its attempt ends, the timer
of its pause fires, the token of its request is set.  The run notices nothing of this until the task
is polled, and where both the timer and the token are ready the poll may take either.

After the token is set at most one more call of the operation is made, whatever order these events
come in.  A call that begins with the token set is followed by no pause (`Run.attemptEnded_cases`), so
the token can only be set too late for one pause, and the call after that pause is the last one.

* `Polled.step?`, `Polled.steps?`: the events, one at a time and in a row.
* `Polled.Heeds`, `Polled.Heeds.step`: the invariant, and that every event keeps it.
* `Polled.Step.atWork`, `Polled.Step.returns`: a call at work is ended by the operation only, and what
  it has come to for good is returned.
* `Polled.cancellation_stops_run`: the calls, over all orders of events.
-/

namespace FsidRegistry.Retry

variable {α : Type}

/-! ## Final outcomes -/

/-- An outcome that no later attempt changes: a success, or an error that is not retried. -/
def Final (outcome : Except StoreError α) : Prop := ∀ e, outcome = .error e → e.isRetryable = false

/-- A final outcome is the result of the run, whether the token is set or not. -/
theorem Run.attemptEnded_of_final (r : Run α) {outcome : Except StoreError α} (ho : Final outcome)
    (now : Instant) (draw : Nat) (cancelled : Bool) :
    (r.attemptEnded outcome now draw cancelled).phase = .finished (outcome.mapError .store) := by
  cases outcome with
  | ok value => rfl
  | error e => rw [attemptEnded_of_finished (verdict_of_permanent (ho e rfl) cancelled)]; rfl

/-! ## Polls -/

/-- The run has returned the error of a cancelled request. -/
def Phase.isCancelled : Phase α → Bool
  | .finished (.error .cancelled) => true
  | _ => false

theorem Phase.isCancelled_iff {p : Phase α} :
    p.isCancelled = true ↔ p = .finished (.error .cancelled) := by
  unfold isCancelled
  split
  · simp
  · next hne => simpa using hne

/-- A run that a task carries. -/
structure Polled (α : Type) where
  timed : TimedRun α
  /-- What the attempt at work has come to, if it has ended. -/
  ended : Option (Except StoreError α)
  /-- Whether the timer of the pause has fired. -/
  fired : Bool
  /-- The calls of the operation, oldest first: whether the token was set when they began. -/
  calls : List Bool

/-- What can happen to a task. -/
inductive PollEvent (α : Type)
  | timePasses (nanos : Nat)
  | tokenCancelled
  | attemptEnds (outcome : Except StoreError α)
  | timerFires
  /-- The task is polled.  Where both the timer and the token are ready, `timerFirst` tells which of
  them the poll takes.  A pause after a failed attempt is drawn by `draw`. -/
  | polled (timerFirst : Bool) (draw : Nat)

namespace Polled

/-- The call that a run makes when it has just come to an attempt. -/
def call (p : TimedRun α) : List Bool :=
  match p.run.phase with
  | .attempting => [p.cancelled]
  | _ => []

/-- A task that has just started a run. -/
def first (policy : Policy) (now : Instant) (cancelled : Bool) : Polled α :=
  let p : TimedRun α := ⟨now, cancelled, .start policy now⟩
  ⟨p, none, false, call p⟩

/-- What a poll finds ready. -/
def ready? (m : Polled α) (timerFirst : Bool) (draw : Nat) : Option (Event α) :=
  match m.timed.run.phase with
  | .attempting => m.ended.map (.attemptEnds · draw)
  | .pausing _ =>
    if m.fired && (timerFirst || !m.timed.cancelled) then some .timerFires
    else if m.timed.cancelled then some .cancellationSeen
    else none
  | _ => none

/-- The task after its run has moved. -/
def moved (m : Polled α) (p : TimedRun α) : Polled α := ⟨p, none, false, m.calls ++ call p⟩

/-- The task after an event, if it can happen.  A poll that finds nothing ready changes nothing; a
task that has returned is not polled. -/
def step? (m : Polled α) : PollEvent α → Option (Polled α)
  | .timePasses nanos => (m.timed.step? (.timePasses nanos)).map fun p => { m with timed := p }
  | .tokenCancelled => (m.timed.step? .tokenCancelled).map fun p => { m with timed := p }
  | .attemptEnds outcome =>
    match m.timed.run.phase, m.ended with
    | .attempting, none => some { m with ended := some outcome }
    | _, _ => none
  | .timerFires =>
    match m.timed.run.phase with
    | .pausing wake => if wake ≤ m.timed.now then some { m with fired := true } else none
    | _ => none
  | .polled timerFirst draw =>
    match m.timed.run.phase with
    | .finished _ | .faulted _ => none
    | _ =>
      match m.ready? timerFirst draw with
      | some e => (m.timed.step? e).map m.moved
      | none => some m

/-- The task after a list of events, if they can happen in that order. -/
def steps? (m : Polled α) : List (PollEvent α) → Option (Polled α)
  | [] => some m
  | e :: es => (m.step? e).bind (·.steps? es)

variable {m m' : Polled α} {e : PollEvent α}

/-- All that an event can do to a task. -/
inductive Step (m : Polled α) : PollEvent α → Polled α → Prop
  | timePasses (nanos : Nat) :
    Step m (.timePasses nanos) { m with timed := { m.timed with now := m.timed.now + nanos } }
  | tokenCancelled : Step m .tokenCancelled { m with timed := { m.timed with cancelled := true } }
  | attemptEnds (outcome : Except StoreError α) (h : m.timed.run.phase = .attempting)
      (hn : m.ended = none) : Step m (.attemptEnds outcome) { m with ended := some outcome }
  | timerFires (wake : Instant) (h : m.timed.run.phase = .pausing wake) (hw : wake ≤ m.timed.now) :
    Step m .timerFires { m with fired := true }
  /-- The poll finds that the attempt has ended. -/
  | hears (timerFirst : Bool) (draw : Nat) (outcome : Except StoreError α)
      (h : m.timed.run.phase = .attempting) (he : m.ended = some outcome) :
    Step m (.polled timerFirst draw)
      ⟨{ m.timed with
          run := m.timed.run.attemptEnded outcome m.timed.now draw m.timed.cancelled },
        none, false, m.calls⟩
  /-- The poll finds that the pause is over. -/
  | resumes (timerFirst : Bool) (draw : Nat) (wake : Instant)
      (h : m.timed.run.phase = .pausing wake) :
    Step m (.polled timerFirst draw)
      ⟨{ m.timed with run := m.timed.run.resume }, none, false, m.calls ++ [m.timed.cancelled]⟩
  /-- The poll finds the token set. -/
  | cancels (timerFirst : Bool) (draw : Nat) (wake : Instant)
      (h : m.timed.run.phase = .pausing wake) (hc : m.timed.cancelled = true) :
    Step m (.polled timerFirst draw)
      ⟨{ m.timed with run := m.timed.run.cancel }, none, false, m.calls⟩
  /-- The poll finds nothing ready. -/
  | waits (timerFirst : Bool) (draw : Nat)
      (hn : m.timed.run.phase = .attempting → m.ended = none) : Step m (.polled timerFirst draw) m

theorem step_of_attempting {timerFirst : Bool} {draw : Nat} (hp : m.timed.run.phase = .attempting)
    (h : m.step? (.polled timerFirst draw) = some m') : Step m (.polled timerFirst draw) m' := by
  simp only [step?, ready?, hp] at h
  cases he : m.ended with
  | none =>
    simp only [he, Option.map_none, Option.some.injEq] at h
    subst h
    exact .waits timerFirst draw fun _ => he
  | some outcome =>
    simp only [he, Option.map_some] at h
    obtain ⟨p, hs, rfl⟩ := Option.map_eq_some_iff.mp h
    cases TimedRun.step?_eq_some_iff.mp hs with
    | attemptEnds =>
      have hcall : call { m.timed with
          run := m.timed.run.attemptEnded outcome m.timed.now draw m.timed.cancelled } = [] := by
        rcases m.timed.run.attemptEnded_cases outcome m.timed.now draw m.timed.cancelled with
          ⟨_, hq, _⟩ | ⟨_, hq, _⟩ | ⟨_, hq⟩ <;> simp [call, hq]
      rw [moved, hcall, List.append_nil]
      exact .hears timerFirst draw outcome hp he

theorem step_of_pausing {timerFirst : Bool} {draw : Nat} {wake : Instant}
    (hp : m.timed.run.phase = .pausing wake)
    (h : m.step? (.polled timerFirst draw) = some m') : Step m (.polled timerFirst draw) m' := by
  simp only [step?, ready?, hp] at h
  split at h
  · rename_i e hr
    obtain ⟨p, hs, rfl⟩ := Option.map_eq_some_iff.mp h
    split at hr
    · cases hr
      cases TimedRun.step?_eq_some_iff.mp hs with
      | timerFires => exact .resumes timerFirst draw wake hp
    · split at hr <;> cases hr
      cases TimedRun.step?_eq_some_iff.mp hs with
      | cancellationSeen _ _ hc =>
        rw [moved, show call { m.timed with run := m.timed.run.cancel } = [] from rfl,
          List.append_nil]
        exact .cancels timerFirst draw wake hp hc
  · cases h
    exact .waits timerFirst draw fun ha => by simp [hp] at ha

theorem step_of_step? (h : m.step? e = some m') : Step m e m' := by
  cases e with
  | timePasses nanos => cases h; exact .timePasses nanos
  | tokenCancelled => cases h; exact .tokenCancelled
  | attemptEnds outcome =>
    simp only [step?] at h
    split at h <;> cases h
    exact .attemptEnds outcome ‹_› ‹_›
  | timerFires =>
    simp only [step?] at h
    split at h
    · split at h <;> cases h
      exact .timerFires _ ‹_› ‹_›
    · cases h
  | polled timerFirst draw =>
    cases hp : m.timed.run.phase with
    | attempting => exact step_of_attempting hp h
    | pausing wake => exact step_of_pausing hp h
    | finished result => simp [step?, hp] at h
    | faulted fault => simp [step?, hp] at h

/-! ## After the token is set -/

/-- What a run has done by its token: no call began with the token set before it was set, and at most
one has since.  A run that has made that one does not pause any more. -/
structure Heeds (m : Polled α) : Prop where
  attempts : m.timed.run.attempts = .ofNat m.calls.length
  unset : m.timed.cancelled = false → m.calls.count true = 0
  pausing : ∀ wake, m.timed.run.phase = .pausing wake → m.calls.count true = 0
  le_one : m.calls.count true ≤ 1
  seen : m.timed.run.phase = .finished (.error .cancelled) → m.timed.cancelled = true
  due : m.fired = true → ∃ wake, m.timed.run.phase = .pausing wake ∧ wake ≤ m.timed.now

theorem heeds_first (policy : Policy) (now : Instant) (cancelled : Bool) :
    (first policy now cancelled : Polled α).Heeds := by
  unfold first Run.start
  cases now.after policy.deadline with
  | error fault => exact ⟨rfl, by simp [call], by simp, by simp [call], by simp, by simp⟩
  | ok deadline =>
    cases cancelled <;> exact ⟨rfl, by simp [call], by simp, by simp [call], by simp, by simp⟩

theorem Heeds.step (h : m.Heeds) (hs : Step m e m') : m'.Heeds := by
  cases hs with
  | timePasses nanos =>
    refine { h with due := fun hf => ?_ }
    obtain ⟨wake, hp, hw⟩ := h.due hf
    exact ⟨wake, hp, Nat.le_trans hw (Nat.le_add_right _ _)⟩
  | tokenCancelled => exact { h with unset := by simp, seen := fun _ => rfl }
  | attemptEnds outcome hp => exact { h with }
  | timerFires wake hp hw => exact { h with due := fun _ => ⟨wake, hp, hw⟩ }
  | waits => exact h
  | cancels timerFirst draw wake hp hc =>
    exact ⟨h.attempts, h.unset, by simp [Run.cancel], h.le_one, fun _ => hc, by simp⟩
  | resumes timerFirst draw wake hp =>
    have hzero : m.calls.count true = 0 := h.pausing wake hp
    refine ⟨?_, fun hc => ?_, by simp [Run.resume], ?_, by simp [Run.resume], by simp⟩
    · simp [Run.resume, h.attempts]
    · have hc : m.timed.cancelled = false := hc
      simp [hzero, hc]
    · cases hc : m.timed.cancelled <;> simp [hzero]
  | hears timerFirst draw outcome hp he =>
    have hattempts := m.timed.run.attempts_attemptEnded outcome m.timed.now draw m.timed.cancelled
    refine ⟨hattempts.trans h.attempts, h.unset, fun wake hq => ?_, h.le_one, fun hq => ?_, by simp⟩
    -- A pause follows only if the token is not set, so no call has begun with it set.
    · rcases m.timed.run.attemptEnded_cases outcome m.timed.now draw m.timed.cancelled with
        ⟨_, hq', _⟩ | ⟨_, _, hc⟩ | ⟨_, hq'⟩
      · simp [hq'] at hq
      · exact h.unset hc
      · simp [hq'] at hq
    · rcases m.timed.run.attemptEnded_cases outcome m.timed.now draw m.timed.cancelled with
        ⟨result, hq', hc⟩ | ⟨_, hq', _⟩ | ⟨_, hq'⟩
      · simp only [hq', Phase.finished.injEq] at hq
        exact hc hq
      · simp [hq'] at hq
      · simp [hq'] at hq

theorem Heeds.steps {es : List (PollEvent α)} (h : m.Heeds) (hs : m.steps? es = some m') :
    m'.Heeds := by
  induction es generalizing m with
  | nil => cases hs; exact h
  | cons e es ih =>
    obtain ⟨u, hu, hs⟩ := Option.bind_eq_some_iff.mp hs
    exact ih (h.step (step_of_step? hu)) hs

/-- A run that has not come to its end can be polled at any time. -/
theorem Heeds.polled_or_over (h : m.Heeds) (timerFirst : Bool) (draw : Nat) :
    (∃ m', m.step? (.polled timerFirst draw) = some m') ∨
      (∃ result, m.timed.run.phase = .finished result) ∨
      ∃ fault, m.timed.run.phase = .faulted fault := by
  cases hp : m.timed.run.phase with
  | finished result => exact Or.inr (Or.inl ⟨result, rfl⟩)
  | faulted fault => exact Or.inr (Or.inr ⟨fault, rfl⟩)
  | attempting =>
    left
    simp only [step?, ready?, hp]
    cases m.ended <;> simp [TimedRun.step?, hp]
  | pausing wake =>
    left
    have hdue : m.fired = true → wake ≤ m.timed.now := by
      intro hf
      obtain ⟨wake', hp', hw⟩ := h.due hf
      rw [hp, Phase.pausing.injEq] at hp'
      rwa [hp']
    simp only [step?, ready?, hp]
    cases hf : m.fired <;> cases hc : m.timed.cancelled <;> cases timerFirst <;>
      simp [TimedRun.step?, hp, hc, hdue, hf]

/-- Once set, the token stays set. -/
theorem Step.cancelled (hs : Step m e m') (hc : m.timed.cancelled = true) :
    m'.timed.cancelled = true := by
  cases hs with
  | tokenCancelled => rfl
  | _ => exact hc

/-- A call that is made after the token was set begins with the token set. -/
theorem Step.calls_eq (hs : Step m e m') (hc : m.timed.cancelled = true) :
    ∃ n, m'.calls = m.calls ++ List.replicate n true := by
  cases hs with
  | resumes timerFirst draw wake hp => exact ⟨1, by simp [hc]⟩
  | _ => exact ⟨0, by simp⟩

theorem calls_eq_of_steps? {es : List (PollEvent α)} (hc : m.timed.cancelled = true)
    (hs : m.steps? es = some m') : ∃ n, m'.calls = m.calls ++ List.replicate n true := by
  induction es generalizing m with
  | nil => cases hs; exact ⟨0, by simp⟩
  | cons e es ih =>
    obtain ⟨u, hu, hs⟩ := Option.bind_eq_some_iff.mp hs
    have hstep := step_of_step? hu
    obtain ⟨k, hk⟩ := hstep.calls_eq hc
    obtain ⟨n, hn⟩ := ih (hstep.cancelled hc) hs
    exact ⟨k + n, by rw [hn, hk, List.append_assoc, List.replicate_append_replicate]⟩

/-- At most one call is made after the token was set. -/
theorem Heeds.length_le (h : m.Heeds) {es : List (PollEvent α)} (hc : m.timed.cancelled = true)
    (hs : m.steps? es = some m') : m'.calls.length ≤ m.calls.length + 1 := by
  have hone := (h.steps hs).le_one
  obtain ⟨n, hn⟩ := calls_eq_of_steps? hc hs
  rw [hn, List.count_append, List.count_replicate_self] at hone
  rw [hn, List.length_append, List.length_replicate]
  omega

/-! ## Calls at work -/

/-- A call of the operation is at work. -/
def AtWork (m : Polled α) : Prop := m.timed.run.phase = .attempting ∧ m.ended = none

/-- The call at work has ended, and the run has not noticed yet. -/
def HasEnded (m : Polled α) (outcome : Except StoreError α) : Prop :=
  m.timed.run.phase = .attempting ∧ m.ended = some outcome

/-- A call at work is ended by nothing but the operation. -/
theorem Step.atWork (hs : Step m e m') (h : m.AtWork) :
    (m'.AtWork ∧ m'.calls = m.calls) ∨
      ∃ outcome, e = .attemptEnds outcome ∧ m'.HasEnded outcome ∧ m'.calls = m.calls := by
  obtain ⟨hp, hn⟩ := h
  cases hs with
  | timePasses | tokenCancelled | waits => exact Or.inl ⟨⟨hp, hn⟩, rfl⟩
  | timerFires _ hp' | resumes _ _ _ hp' | cancels _ _ _ hp' => simp [hp] at hp'
  | attemptEnds outcome => exact Or.inr ⟨outcome, rfl, ⟨hp, rfl⟩, rfl⟩
  | hears _ _ outcome _ he => simp [hn] at he

/-- The run has the outcome of a call that has ended: it is yet to notice it, or has returned it. -/
def Returns (m : Polled α) (outcome : Except StoreError α) : Prop :=
  m.HasEnded outcome ∨ m.timed.run.phase = .finished (outcome.mapError .store)

/-- A final outcome is what the run returns, whatever happens before it is polled. -/
theorem Step.returns {outcome : Except StoreError α} (ho : Final outcome) (hs : Step m e m')
    (h : m.Returns outcome) : m'.Returns outcome ∧ m'.calls = m.calls := by
  cases hs with
  | timePasses | tokenCancelled => exact ⟨h, rfl⟩
  | waits => exact ⟨h, rfl⟩
  | timerFires _ hp | resumes _ _ _ hp | cancels _ _ _ hp =>
    rcases h with ⟨hp', _⟩ | hp' <;> simp [hp'] at hp
  | attemptEnds _ hp hn =>
    rcases h with ⟨_, he⟩ | hp'
    · simp [hn] at he
    · simp [hp'] at hp
  | hears _ draw outcome' hp he =>
    rcases h with ⟨_, he'⟩ | hp'
    · rw [he, Option.some.injEq] at he'
      subst he'
      exact ⟨Or.inr (m.timed.run.attemptEnded_of_final ho m.timed.now draw m.timed.cancelled), rfl⟩
    · simp [hp'] at hp

theorem Returns.steps {outcome : Except StoreError α} (ho : Final outcome) (h : m.Returns outcome)
    {es : List (PollEvent α)} (hs : m.steps? es = some m') :
    m'.Returns outcome ∧ m'.calls = m.calls := by
  induction es generalizing m with
  | nil => cases hs; exact ⟨h, rfl⟩
  | cons e es ih =>
    obtain ⟨u, hu, hs⟩ := Option.bind_eq_some_iff.mp hs
    obtain ⟨hr, hcalls⟩ := (step_of_step? hu).returns ho h
    obtain ⟨hr', hcalls'⟩ := ih hr hs
    exact ⟨hr', hcalls'.trans hcalls⟩

/-- The next poll makes the run return a final outcome. -/
theorem HasEnded.polled {outcome : Except StoreError α} (ho : Final outcome) (h : m.HasEnded outcome)
    (timerFirst : Bool) (draw : Nat) :
    ∃ m', m.step? (.polled timerFirst draw) = some m' ∧
      m'.timed.run.phase = .finished (outcome.mapError .store) := by
  obtain ⟨hp, he⟩ := h
  refine ⟨m.moved { m.timed with
    run := m.timed.run.attemptEnded outcome m.timed.now draw m.timed.cancelled }, ?_, ?_⟩
  · simp only [step?, ready?, hp, he, Option.map_some, TimedRun.step?]
  · exact m.timed.run.attemptEnded_of_final ho m.timed.now draw m.timed.cancelled

/-- **Cancellation stops a run**, whatever order its events come in: at most one call of the operation
begins with the token set, so at most one is made after the token was set, and the run is cancelled
only if it was.  A call at work is ended by the operation only; if its outcome is final, the run
returns it at the next poll, and nothing that happens before changes this.  A run can be polled until
it has come to its end. -/
theorem cancellation_stops_run {policy : Policy} {now : Instant} {cancelled : Bool}
    {es : List (PollEvent α)} (h : (first policy now cancelled).steps? es = some m) :
    m.timed.run.attempts = .ofNat m.calls.length ∧ m.calls.count true ≤ 1 ∧
    (∀ later m', m.timed.cancelled = true → m.steps? later = some m' →
      m'.calls.length ≤ m.calls.length + 1) ∧
    (m.timed.run.phase = .finished (.error .cancelled) → m.timed.cancelled = true) ∧
    (∀ timerFirst draw, (∃ m', m.step? (.polled timerFirst draw) = some m') ∨
      (∃ result, m.timed.run.phase = .finished result) ∨
      ∃ fault, m.timed.run.phase = .faulted fault) ∧
    (∀ e m', m.AtWork → m.step? e = some m' → (m'.AtWork ∧ m'.calls = m.calls) ∨
      ∃ outcome, e = .attemptEnds outcome ∧ m'.HasEnded outcome ∧ m'.calls = m.calls) ∧
    ∀ outcome, Final outcome → m.HasEnded outcome →
      (∀ later m', m.steps? later = some m' → m'.Returns outcome ∧ m'.calls = m.calls) ∧
      ∀ timerFirst draw, ∃ m', m.step? (.polled timerFirst draw) = some m' ∧
        m'.timed.run.phase = .finished (outcome.mapError .store) := by
  have hm : m.Heeds := (heeds_first policy now cancelled).steps h
  refine ⟨hm.attempts, hm.le_one, fun later m' hc hs => hm.length_le hc hs, hm.seen,
    hm.polled_or_over, ?_, ?_⟩
  · intro e m' hw hs
    exact (step_of_step? hs).atWork hw
  · intro outcome ho he
    refine ⟨fun later m' hs => ?_, he.polled ho⟩
    exact Returns.steps ho (Or.inl he) hs

/-- The token is set when the timer has fired, and the poll takes the timer: one more call is made,
which fails, and the run is cancelled. -/
theorem cancellation_stops_run_after_last_call :
    ∃ (es : List (PollEvent Nat)) (m : Polled Nat),
      (first {} 0 false).steps? es = some m ∧ m.calls = [false, true] ∧
      m.timed.run.attempts = .ofNat m.calls.length ∧ m.timed.cancelled = true := by
  let es : List (PollEvent Nat) :=
    [.attemptEnds (.error (.unavailable "busy")), .polled true 5, .timePasses 5, .timerFires,
      .tokenCancelled, .polled true 0, .attemptEnds (.error (.unavailable "busy")), .polled true 5]
  have hrun : ((first {} 0 false).steps? es).any (fun m => m.calls == [false, true] &&
      m.timed.run.phase.isCancelled) = true := by
    decide +kernel
  obtain ⟨m, hm, hend⟩ := (Option.any_eq_true _ _).mp hrun
  obtain ⟨hcalls, hphase⟩ := Bool.and_eq_true_iff.mp hend
  have hstops := cancellation_stops_run hm
  exact ⟨es, m, hm, beq_iff_eq.mp hcalls, hstops.1, hstops.2.2.2.1 (Phase.isCancelled_iff.mp hphase)⟩

end Polled

end FsidRegistry.Retry

import FsidRegistry.Proofs.Cache.Step
import FsidRegistry.Proofs.Retry.Overflow

/-!
# The stages of a call over a memory store

A call is made under the default policy over a memory store that never fails by itself.  Between its
questions others may allocate any path on the store, the one it asks for among them, and so it may be
told that there is no such row and then that there is one.  This happens to a call at most once: the
conflict says that the path has an fsid by now, and the store takes no fsid back.

* `Refused`, `MemoryStore.Holds.refused`: the errors of a memory store and what they say about it.
* `Call.Stage`: how far a call has come; `Stage.mono`: others do not set it back.
* `Call.Fails`: how a call comes to fail.
* `Stage.of_opening`, `Stage.of_following`, `Stage.of_pausing` and their siblings: what the phase of a
  call says about its stage.
* `Stage.looks`, `Stage.asks`, `Stage.wakes`, `Stage.sees`, `Stage.keeps`: every step of a call takes
  it to a later stage.
-/

namespace FsidRegistry

/-! ## Refusals -/

/-- How a memory store that has issued some paths refuses a question. -/
inductive Refused (paths : List String) : Query → StoreError → Prop
  | unknownPath (path : String) (h : path ∉ paths) : Refused paths (.fsidOf path) .notFound
  | unknownFsid (fsid : Fsid) : Refused paths (.pathOf fsid) .notFound
  | taken (path : String) (h : path ∈ paths) : Refused paths (.allocate path) (.conflict path)
  | full (path : String) (h : path ∉ paths) (hfull : paths.length = issuable) :
    Refused paths (.allocate path) (.other "fsid space exhausted")

namespace MemoryStore

variable {m : MemoryStore} {paths : List String}

theorem Holds.refused (h : m.Holds paths) {q : Query} {e : StoreError}
    (he : (source.ask q m).1 = .error e) : Refused paths q e := by
  cases q with
  | fsidOf path =>
    have he : m.fsidOf path = .error e := he
    by_cases hp : path ∈ paths
    · obtain ⟨fsid, hf, -⟩ := h.fsidOf_of_mem hp
      rw [hf] at he
      cases he
    · rw [h.fsidOf_of_not_mem hp] at he
      cases he
      exact .unknownPath path hp
  | pathOf fsid =>
    have he : m.pathOf fsid = .error e := he
    rcases m.pathOf_cases fsid with ⟨path, hp⟩ | hp
    · rw [hp] at he
      cases he
    · rw [hp] at he
      cases he
      exact .unknownFsid fsid
  | allocate path =>
    have he : (m.allocate path).1 = .error e := he
    by_cases hp : path ∈ paths
    · rw [h.allocate_of_mem hp] at he
      cases he
      exact .taken path hp
    · by_cases hl : issuable ≤ paths.length
      · rw [h.allocate_of_full hp hl] at he
        cases he
        exact .full path hp (Nat.le_antisymm h.length_le hl)
      · obtain ⟨t, ha, -⟩ := h.allocate hp (Nat.lt_of_not_le hl)
        rw [ha] at he
        cases he

end MemoryStore

/-! ## The default policy -/

namespace Retry.Policy

theorem grows_default : ({} : Policy).backoff.Grows := by decide +kernel

/-- A first pause is shorter than the time allowed. -/
theorem drawn_default_le (draw : Nat) :
    ({} : Policy).backoff.drawn draw ≤ ({} : Policy).deadline.nanos :=
  Nat.le_trans (Nat.min_le_right _ _) (by decide)

end Retry.Policy

/-- The clock ends within the time that the default policy allows. -/
def ClockEnds (now : Instant) : Prop := clockEnd ≤ now + ({} : Retry.Policy).deadline.nanos

/-- How many attempts a request takes at most. -/
def CacheRequest.mostAttempts : CacheRequest → Nat
  | .fsidOrAllocate _ => 2
  | .fsidOf _ | .allocate _ | .pathOf _ => 1

theorem CacheRequest.one_le_mostAttempts (request : CacheRequest) : 1 ≤ request.mostAttempts := by
  cases request <;> simp [mostAttempts]

/-! ## Stages -/

namespace Call

/-- How far a call over a store has come that has issued some paths. -/
inductive Stage (paths : List String) (now : Instant) (c : Call) : Nat → Prop
  | looking (hp : c.phase = .looking) (hr : c.run = none) (hd : c.policy = {}) :
    Stage paths now c 0
  | opening (run : Retry.Run Pair) (hp : c.phase = .opening) (hr : c.run = some run)
      (ha : run.attempts = 1) (hb : run.backoff = ({} : Retry.Policy).backoff) :
    Stage paths now c 1
  /-- An allocation has met a conflict and looks the path up. -/
  | lookingUp (path : String) (run : Retry.Run Pair) (hq : c.request = .allocate path)
      (hp : c.phase = .following (.conflict path) (.fsidOf path)) (hr : c.run = some run)
      (ha : run.attempts = 1) (hmem : path ∈ paths) : Stage paths now c 2
  /-- A lookup has found nothing and goes on to allocate. -/
  | allocating (path : String) (run : Retry.Run Pair) (hq : c.request = .fsidOrAllocate path)
      (hp : c.phase = .following .notFound (.allocate path)) (hr : c.run = some run)
      (ha : run.attempts = 1) (hb : run.backoff = ({} : Retry.Policy).backoff) :
    Stage paths now c 2
  /-- It has lost a race. -/
  | pausing (path : String) (run : Retry.Run Pair) (wake : Instant)
      (hq : c.request = .fsidOrAllocate path) (hp : c.phase = .pausing wake) (hr : c.run = some run)
      (ha : run.attempts = 1) (hmem : path ∈ paths) : Stage paths now c 3
  | again (path : String) (run : Retry.Run Pair) (hq : c.request = .fsidOrAllocate path)
      (hp : c.phase = .opening) (hr : c.run = some run) (ha : run.attempts = 2)
      (hmem : path ∈ paths) : Stage paths now c 4
  | keepingFsid (pair : Pair) (hp : c.phase = .keepingFsid pair)
      (ha : c.attempts.toNat ≤ c.request.mostAttempts) : Stage paths now c 5
  | keepingPath (pair : Pair) (hp : c.phase = .keepingPath pair)
      (ha : c.attempts.toNat ≤ c.request.mostAttempts) : Stage paths now c 6
  | finished (result : Except Error (Option Pair)) (hp : c.phase = .finished result)
      (ha : c.attempts.toNat ≤ c.request.mostAttempts) : Stage paths now c 7
  | faulted (fault : Fault) (hp : c.phase = .faulted fault) (ha : c.attempts.toNat ≤ 1)
      (hclock : ClockEnds now) : Stage paths now c 7

/-- What a call does by itself. -/
inductive Act
  | looks
  /-- It asks the store.  A pause after a failed attempt is drawn by `draw`. -/
  | asks (draw : Nat)
  | wakes
  | seesCancellation
  | keeps

/-- In its first attempt a call was told that a path has no fsid, and now it is about to allocate one
for the path, but it has one by now. -/
structure LosesRace (paths : List String) (c : Call) (path : String) (run : Retry.Run Pair) :
    Prop where
  request_eq : c.request = .fsidOrAllocate path
  phase_eq : c.phase = .following .notFound (.allocate path)
  taken : path ∈ paths
  run_eq : c.run = some run
  first : run.attempts = 1

/-- How a call comes to fail by what it does. -/
inductive Fails (paths : List String) (now : Instant) (cancelled : Bool) (c : Call) :
    Act → Error → Prop
  | exhausted (path : String) (draw : Nat) (hq : c.pending? = some (.allocate path))
      (h : path ∉ paths) (hfull : paths.length = issuable) :
    Fails paths now cancelled c (.asks draw) (.store (.other "fsid space exhausted"))
  /-- The pause after a lost race would reach the deadline. -/
  | runsOut (path : String) (run : Retry.Run Pair) (draw : Nat) (h : c.LosesRace paths path run)
      (hd : run.deadline ≤ now + run.backoff.drawn draw) :
    Fails paths now cancelled c (.asks draw) (.store (.conflict path))
  /-- The request is cancelled when the race is lost. -/
  | isCancelled (path : String) (run : Retry.Run Pair) (draw : Nat) (h : c.LosesRace paths path run)
      (hc : cancelled = true) : Fails paths now cancelled c (.asks draw) .cancelled
  /-- The request is cancelled within the pause after a lost race. -/
  | isInterrupted (path : String) (run : Retry.Run Pair) (wake : Instant)
      (hq : c.request = .fsidOrAllocate path) (hp : c.phase = .pausing wake) (hmem : path ∈ paths)
      (hr : c.run = some run) (ha : run.attempts = 1) (hc : cancelled = true) :
    Fails paths now cancelled c .seesCancellation .cancelled

variable {paths paths' : List String} {now now' : Instant} {c d : Call} {cache cache' : Cache}
  {n : Nat} {cancelled : Bool}

theorem stage_begin (request : CacheRequest) : (begin {} request).Stage paths now 0 :=
  .looking rfl rfl rfl

/-- Paths that others allocate and time that passes do not set a call back. -/
theorem Stage.mono (h : c.Stage paths now n) (hp : ∀ path ∈ paths, path ∈ paths')
    (hle : now ≤ now') : c.Stage paths' now' n := by
  cases h with
  | looking hp hr hd => exact .looking hp hr hd
  | opening run hp hr ha hb => exact .opening run hp hr ha hb
  | lookingUp path run hq hph hr ha hmem => exact .lookingUp path run hq hph hr ha (hp path hmem)
  | allocating path run hq hp hr ha hb => exact .allocating path run hq hp hr ha hb
  | pausing path run wake hq hph hr ha hmem => exact .pausing path run wake hq hph hr ha (hp path hmem)
  | again path run hq hph hr ha hmem => exact .again path run hq hph hr ha (hp path hmem)
  | keepingFsid pair hp ha => exact .keepingFsid pair hp ha
  | keepingPath pair hp ha => exact .keepingPath pair hp ha
  | finished result hp ha => exact .finished result hp ha
  | faulted fault hp ha hclock =>
    exact .faulted fault hp ha (Nat.le_trans hclock (Nat.add_le_add_right hle _))

theorem attempts_eq {run : Retry.Run Pair} (h : c.run = some run) : c.attempts = run.attempts := by
  rw [attempts, h]
  rfl

theorem Stage.attempts_le (h : c.Stage paths now n) : c.attempts.toNat ≤ c.request.mostAttempts := by
  have hone := c.request.one_le_mostAttempts
  cases h with
  | looking _ hr => simp [attempts, hr]
  | opening run _ hr ha | lookingUp _ run _ _ hr ha | allocating _ run _ _ hr ha
  | pausing _ run _ _ _ hr ha => rwa [attempts_eq hr, ha]
  | again path run hq _ hr ha => rw [attempts_eq hr, ha, hq]; exact Nat.le_refl 2
  | keepingFsid _ _ ha | keepingPath _ _ ha | finished _ _ ha => exact ha
  | faulted _ _ ha => exact Nat.le_trans ha hone

theorem Stage.le_seven (h : c.Stage paths now n) : n ≤ 7 := by
  cases h <;> decide

/-! ### What a phase says about the stage -/

theorem Stage.of_looking (h : c.Stage paths now n) (hp : c.phase = .looking) :
    n = 0 ∧ c.run = none ∧ c.policy = {} := by
  cases h with
  | looking _ hr hd => exact ⟨rfl, hr, hd⟩
  | opening _ hp' | lookingUp _ _ _ hp' | allocating _ _ _ hp' | pausing _ _ _ _ hp'
  | again _ _ _ hp' | keepingFsid _ hp' | keepingPath _ hp' | finished _ hp' | faulted _ hp' =>
    rw [hp] at hp'
    cases hp'

/-- A second attempt is made for a path that has an fsid. -/
theorem Stage.of_opening (h : c.Stage paths now n) (hp : c.phase = .opening) :
    ∃ run, c.run = some run ∧
      ((run.attempts = 1 ∧ run.backoff = ({} : Retry.Policy).backoff ∧ n = 1) ∨
        ∃ path, c.request = .fsidOrAllocate path ∧ run.attempts = 2 ∧ path ∈ paths ∧ n = 4) := by
  cases h with
  | opening run _ hr ha hb => exact ⟨run, hr, Or.inl ⟨ha, hb, rfl⟩⟩
  | again path run hq _ hr ha hmem => exact ⟨run, hr, Or.inr ⟨path, hq, ha, hmem, rfl⟩⟩
  | looking hp' | lookingUp _ _ _ hp' | allocating _ _ _ hp' | pausing _ _ _ _ hp'
  | keepingFsid _ hp' | keepingPath _ hp' | finished _ hp' | faulted _ hp' =>
    rw [hp] at hp'
    cases hp'

/-- A second question is asked in the first attempt. -/
theorem Stage.of_following (h : c.Stage paths now n) {first : StoreError} {q : Query}
    (hp : c.phase = .following first q) :
    ∃ path run, c.run = some run ∧ run.attempts = 1 ∧ n = 2 ∧
      ((c.request = .allocate path ∧ q = .fsidOf path ∧ path ∈ paths) ∨
        (c.request = .fsidOrAllocate path ∧ first = .notFound ∧ q = .allocate path ∧
          run.backoff = ({} : Retry.Policy).backoff)) := by
  cases h with
  | lookingUp path run hq hp' hr ha hmem =>
    rw [hp] at hp'
    cases hp'
    exact ⟨path, run, hr, ha, rfl, Or.inl ⟨hq, rfl, hmem⟩⟩
  | allocating path run hq hp' hr ha hb =>
    rw [hp] at hp'
    cases hp'
    exact ⟨path, run, hr, ha, rfl, Or.inr ⟨hq, rfl, rfl, hb⟩⟩
  | looking hp' | opening _ hp' | pausing _ _ _ _ hp' | again _ _ _ hp' | keepingFsid _ hp'
  | keepingPath _ hp' | finished _ hp' | faulted _ hp' =>
    rw [hp] at hp'
    cases hp'

theorem Stage.of_pausing (h : c.Stage paths now n) {wake : Instant} (hp : c.phase = .pausing wake) :
    ∃ path run, c.request = .fsidOrAllocate path ∧ c.run = some run ∧ run.attempts = 1 ∧
      path ∈ paths ∧ n = 3 := by
  cases h with
  | pausing path run _ hq _ hr ha hmem => exact ⟨path, run, hq, hr, ha, hmem, rfl⟩
  | looking hp' | opening _ hp' | lookingUp _ _ _ hp' | allocating _ _ _ hp' | again _ _ _ hp'
  | keepingFsid _ hp' | keepingPath _ hp' | finished _ hp' | faulted _ hp' =>
    rw [hp] at hp'
    cases hp'

/-- A call that has found a pair has only to keep it. -/
theorem Stage.of_found (h : c.Stage paths now n) {pair : Pair} :
    (c.phase = .keepingFsid pair → n = 5) ∧ (c.phase = .keepingPath pair → n = 6) := by
  cases h with
  | keepingFsid _ hp => simp [hp]
  | keepingPath _ hp => simp [hp]
  | looking hp | opening _ hp | lookingUp _ _ _ hp | allocating _ _ _ hp | pausing _ _ _ _ hp
  | again _ _ _ hp | finished _ hp | faulted _ hp => simp [hp]

theorem Stage.clockEnds (h : c.Stage paths now n) {fault : Fault} (hp : c.phase = .faulted fault) :
    ClockEnds now := by
  cases h with
  | faulted _ _ _ hclock => exact hclock
  | looking hp' | opening _ hp' | lookingUp _ _ _ hp' | allocating _ _ _ hp' | pausing _ _ _ _ hp'
  | again _ _ _ hp' | keepingFsid _ hp' | keepingPath _ hp' | finished _ hp' =>
    rw [hp] at hp'
    cases hp'

/-! ## The end of an attempt -/

variable {run : Retry.Run Pair} {act : Act}

theorem attemptEnded_of_run (hr : c.run = some run) (outcome : Except StoreError Pair)
    (now : Instant) (draw : Nat) (cancelled : Bool) :
    c.attemptEnded outcome now draw cancelled =
      c.withRun (run.attemptEnded outcome now draw cancelled) := by
  rw [attemptEnded, hr]

/-- A pair ends the attempt and is about to be kept. -/
theorem attemptEnded_of_ok (hr : c.run = some run) (pair : Pair) (now : Instant) (draw : Nat)
    (cancelled : Bool) :
    (c.attemptEnded (.ok pair) now draw cancelled).phase = .keepingFsid pair ∧
      (c.attemptEnded (.ok pair) now draw cancelled).request = c.request ∧
      (c.attemptEnded (.ok pair) now draw cancelled).attempts = run.attempts := by
  rw [attemptEnded_of_run hr]
  exact ⟨rfl, rfl, rfl⟩

/-- An error that is not retried ends the call. -/
theorem attemptEnded_of_permanent (hr : c.run = some run) {e : StoreError}
    (he : e.isRetryable = false) (now : Instant) (draw : Nat) (cancelled : Bool) :
    (c.attemptEnded (.error e) now draw cancelled).phase =
        .finished (c.request.settle (.error (.store e))) ∧
      (c.attemptEnded (.error e) now draw cancelled).request = c.request ∧
      (c.attemptEnded (.error e) now draw cancelled).attempts = run.attempts := by
  rw [attemptEnded_of_run hr,
    Retry.Run.attemptEnded_of_finished (Retry.verdict_of_permanent he cancelled)]
  exact ⟨rfl, rfl, rfl⟩

/-! ## Steps -/

/-- A call has come further than a stage, and if it has failed, it has failed in a certain way. -/
structure Advances (paths : List String) (now : Instant) (n : Nat) (fails : Error → Prop)
    (c : Call) : Prop where
  further : ∃ n', n < n' ∧ c.Stage paths now n'
  failed : ∀ error, c.phase = .finished (.error error) → fails error

variable {fails : Error → Prop}

theorem Stage.advances {n' : Nat} (h : c.Stage paths now n') (hlt : n < n')
    (hne : ∀ error, c.phase ≠ .finished (.error error)) : Advances paths now n fails c :=
  ⟨⟨n', hlt, h⟩, fun error hp => absurd hp (hne error)⟩

/-- A call that has found a pair is about to keep it. -/
theorem advances_of_ok (hr : c.run = some run) (ha : run.attempts.toNat ≤ c.request.mostAttempts)
    (hn : n < 5) (pair : Pair) (draw : Nat) (cancelled : Bool) :
    Advances paths now n fails (c.attemptEnded (.ok pair) now draw cancelled) := by
  obtain ⟨hp, hq, ha'⟩ := attemptEnded_of_ok hr pair now draw cancelled
  refine Stage.advances (.keepingFsid pair hp ?_) hn (by simp [hp])
  rw [ha', hq]
  exact ha

theorem Stage.looks (h : c.Stage paths now n) (hs : c.Step cache (.looks now) d cache') :
    Advances paths now n (Fails paths now cancelled c .looks) d := by
  cases hs with
  | hits _ pair hp hc =>
    obtain ⟨rfl, hr, -⟩ := h.of_looking hp
    refine Stage.advances (.finished (.ok (some pair)) rfl ?_) (by decide) (by simp)
    simp [attempts, hr]
  | starts _ hp hc =>
    obtain ⟨rfl, -, hd⟩ := h.of_looking hp
    rw [hd]
    rcases Nat.lt_or_ge (now + ({} : Retry.Policy).deadline.nanos) clockEnd with hclock | hclock
    · rw [Retry.Run.start_of_lt hclock]
      exact Stage.advances (.opening _ rfl rfl rfl rfl) (by decide) (by simp [withRun, phaseOf])
    · rw [Retry.Run.start_of_le hclock]
      exact Stage.advances (.faulted _ rfl (Nat.zero_le 1) hclock) (by decide)
        (by simp [withRun, phaseOf])

theorem Stage.wakes (h : c.Stage paths now n) (hs : c.Step cache (.timerFires now) d cache') :
    Advances paths now n (Fails paths now cancelled c .wakes) d := by
  cases hs with
  | resumes wake _ run hp hr hw =>
    obtain ⟨path, run', hq, hr', ha, hmem, rfl⟩ := h.of_pausing hp
    obtain rfl := Option.some.inj (hr.symm.trans hr')
    refine Stage.advances (.again path run.resume hq rfl rfl ?_ hmem) (by decide) ?_
    · exact congrArg (· + 1) ha
    · simp [withRun, phaseOf, Retry.Run.resume]

theorem Stage.sees (h : c.Stage paths now n) (hs : c.Step cache .cancellationSeen d cache') :
    Advances paths now n (Fails paths now true c .seesCancellation) d := by
  cases hs with
  | cancels wake run hp hr =>
    obtain ⟨path, run', hq, hr', ha, hmem, rfl⟩ := h.of_pausing hp
    obtain rfl := Option.some.inj (hr.symm.trans hr')
    refine ⟨⟨7, by decide, .finished (.error .cancelled) rfl ?_⟩, fun error hp' => ?_⟩
    · have hattempts : (c.withRun run.cancel).attempts = 1 := ha
      rw [hattempts]
      exact c.request.one_le_mostAttempts
    · cases hp'
      exact .isInterrupted path run wake hq hp hmem hr ha rfl

theorem Stage.keeps (h : c.Stage paths now n) (hs : c.Step cache .keeps d cache') :
    Advances paths now n (Fails paths now cancelled c .keeps) d := by
  have hattempts := h.attempts_le
  cases hs with
  | keepsFsid fsid path hp =>
    obtain rfl := h.of_found.1 hp
    exact Stage.advances (.keepingPath _ rfl hattempts) (by decide) (by simp)
  | keepsPath fsid path hp =>
    obtain rfl := h.of_found.2 hp
    exact Stage.advances (.finished _ rfl hattempts) (by decide) (by simp)

/-! ## Questions -/

variable {m : MemoryStore} {q : Query} {draw : Nat}

/-- A call that is refused for good has ended. -/
theorem advances_of_permanent (hr : c.run = some run) (ha : run.attempts.toNat ≤ c.request.mostAttempts)
    (hn : n < 7) {e : StoreError} (he : e.isRetryable = false)
    (hf : ∀ error, c.request.settle (.error (.store e)) = .error error → fails error) :
    Advances paths now n fails (c.attemptEnded (.error e) now draw cancelled) := by
  obtain ⟨hp, hq, ha'⟩ := attemptEnded_of_permanent hr he now draw cancelled
  refine ⟨⟨7, hn, .finished _ hp ?_⟩, fun error hp' => ?_⟩
  · rw [ha', hq]
    exact ha
  · rw [hp] at hp'
    exact hf error (CallPhase.finished.inj hp')

/-- What a run under the default policy comes to by a conflict in its first attempt. -/
theorem phase_of_conflict (hb : run.backoff = ({} : Retry.Policy).backoff) (path : String)
    (now : Instant) (draw : Nat) (cancelled : Bool) {phase : Retry.Phase Pair}
    (h : (run.attemptEnded (.error (.conflict path)) now draw cancelled).phase = phase) :
    (phase = .finished (.error (.store (.conflict path))) ∧
      run.deadline ≤ now + run.backoff.drawn draw) ∨
    (phase = .finished (.error .cancelled) ∧ cancelled = true) ∨
    (∃ wake, phase = .pausing wake) ∨ ∃ fault, phase = .faulted fault ∧ ClockEnds now := by
  have hgrows : run.backoff.Grows := by
    rw [hb]
    exact Retry.Policy.grows_default
  have hle : now + run.backoff.drawn draw ≤ now + ({} : Retry.Policy).deadline.nanos := by
    rw [hb]
    exact Nat.add_le_add_left (Retry.Policy.drawn_default_le draw) now
  subst h
  by_cases hclock : now + run.backoff.drawn draw < clockEnd
  · have hverdict : Retry.verdict (α := Pair) run.deadline run.backoff (.error (.conflict path)) now
        draw cancelled = _ := Retry.verdict_of_retryable rfl hgrows hclock cancelled
    by_cases hd : run.deadline ≤ now + run.backoff.drawn draw
    · rw [if_pos hd] at hverdict
      rw [Retry.Run.attemptEnded_of_finished hverdict]
      exact Or.inl ⟨rfl, hd⟩
    · rw [if_neg hd] at hverdict
      cases cancelled with
      | true =>
        rw [Retry.Run.attemptEnded_of_finished hverdict]
        exact Or.inr (Or.inl ⟨rfl, rfl⟩)
      | false =>
        rw [Retry.Run.attemptEnded_of_pause hverdict]
        exact Or.inr (Or.inr (Or.inl ⟨_, rfl⟩))
  · obtain ⟨fault, hverdict⟩ : ∃ fault, Retry.verdict (α := Pair) run.deadline run.backoff
        (.error (.conflict path)) now draw cancelled = .faulted fault :=
      Retry.verdict_faulted_iff.mpr
        ⟨⟨.conflict path, rfl, rfl⟩, Or.inr (Nat.le_of_not_lt hclock)⟩
    rw [Retry.Run.attemptEnded_of_faulted hverdict]
    exact Or.inr (Or.inr (Or.inr ⟨fault, rfl, Nat.le_trans (Nat.le_of_not_lt hclock) hle⟩))

/-- A call that loses a race pauses, or fails because it may not. -/
theorem LosesRace.advances {path : String} (h : c.LosesRace paths path run)
    (hb : run.backoff = ({} : Retry.Policy).backoff) :
    Advances paths now 2 (Fails paths now cancelled c (.asks draw))
      (c.attemptEnded (.error (.conflict path)) now draw cancelled) := by
  have hattempts := run.attempts_attemptEnded (.error (.conflict path)) now draw cancelled
  have hcases := phase_of_conflict hb path now draw cancelled rfl
  rw [attemptEnded_of_run h.run_eq]
  rw [h.first] at hattempts
  generalize run.attemptEnded (.error (.conflict path)) now draw cancelled = run' at *
  have hone : (c.withRun run').attempts.toNat ≤ 1 := Nat.le_of_eq (congrArg UInt32.toNat hattempts)
  have hmost : (c.withRun run').attempts.toNat ≤ (c.withRun run').request.mostAttempts :=
    Nat.le_trans hone (CacheRequest.one_le_mostAttempts _)
  have hphase : (c.withRun run').phase = phaseOf c.request run'.phase := rfl
  rw [h.request_eq] at hphase
  rcases hcases with ⟨hp, hd⟩ | ⟨hp, hc⟩ | ⟨wake, hp⟩ | ⟨fault, hp, hclock⟩
  · rw [hp] at hphase
    refine ⟨⟨7, by decide, .finished _ hphase hmost⟩, fun error hp' => ?_⟩
    rw [hphase] at hp'
    cases hp'
    exact .runsOut path run draw h hd
  · rw [hp] at hphase
    refine ⟨⟨7, by decide, .finished _ hphase hmost⟩, fun error hp' => ?_⟩
    rw [hphase] at hp'
    cases hp'
    exact .isCancelled path run draw h hc
  · rw [hp] at hphase
    refine Stage.advances (.pausing path run' wake h.request_eq hphase rfl hattempts h.taken)
      (by decide) ?_
    rw [hphase]
    simp [phaseOf]
  · rw [hp] at hphase
    refine Stage.advances (.faulted fault hphase hone hclock) (by decide) ?_
    rw [hphase]
    simp [phaseOf]

/-- A first question is refused, and the attempt goes on with a second one. -/
theorem Stage.follows (h : c.Stage paths now n) (hp : c.phase = .opening) {e : StoreError}
    {next : Query} (he : Refused paths c.request.opening e)
    (hf : c.request.followUp? e = some next) :
    Advances paths now n fails { c with phase := .following e next } := by
  obtain ⟨run, hr, ⟨ha, hb, rfl⟩ | ⟨path, hq, -, hmem, -⟩⟩ := h.of_opening hp
  · cases hq : c.request with
    | fsidOf path | pathOf fsid =>
      rw [hq] at hf
      cases hf
    | allocate path =>
      rw [hq] at hf he
      cases he with
      | taken _ hmem =>
        cases hf
        exact Stage.advances (.lookingUp path run rfl rfl hr ha hmem) (by decide) (by simp)
      | full => cases hf
    | fsidOrAllocate path =>
      rw [hq] at hf he
      cases he
      cases hf
      exact Stage.advances (.allocating path run rfl rfl hr ha hb) (by decide) (by simp)
  · rw [hq] at he
    cases he with
    | unknownPath _ hnot => exact absurd hmem hnot

/-- A first question is refused, and there is no second one. -/
theorem Stage.refused (h : c.Stage paths now n) (hp : c.phase = .opening) {e : StoreError}
    (he : Refused paths c.request.opening e) (hf : c.request.followUp? e = none) :
    Advances paths now n (Fails paths now cancelled c (.asks draw))
      (c.attemptEnded (.error e) now draw cancelled) := by
  obtain ⟨run, hr, ⟨ha, hb, rfl⟩ | ⟨path, hq, -, hmem, -⟩⟩ := h.of_opening hp
  · have hmost : run.attempts.toNat ≤ c.request.mostAttempts := by
      rw [ha]
      exact c.request.one_le_mostAttempts
    cases hq : c.request with
    | fsidOf path | pathOf fsid =>
      rw [hq] at he
      cases he
      refine advances_of_permanent hr hmost (by decide) rfl fun error herror => ?_
      rw [hq] at herror
      cases herror
    | allocate path =>
      rw [hq] at hf he
      cases he with
      | taken => cases hf
      | full _ hmem hfull =>
        refine advances_of_permanent hr hmost (by decide) rfl fun error herror => ?_
        rw [hq] at herror
        cases herror
        refine .exhausted path draw ?_ hmem hfull
        rw [pending?, hp, hq]
        rfl
    | fsidOrAllocate path =>
      rw [hq] at hf he
      cases he
      cases hf
  · rw [hq] at he
    cases he with
    | unknownPath _ hnot => exact absurd hmem hnot

/-- A first question is answered with a pair. -/
theorem Stage.answered (h : c.Stage paths now n) (hp : c.phase = .opening) (pair : Pair) :
    Advances paths now n fails (c.attemptEnded (.ok pair) now draw cancelled) := by
  have hattempts := h.attempts_le
  obtain ⟨run, hr, hcases⟩ := h.of_opening hp
  rw [attempts_eq hr] at hattempts
  refine advances_of_ok hr hattempts ?_ pair draw cancelled
  rcases hcases with ⟨-, -, rfl⟩ | ⟨-, -, -, -, rfl⟩ <;> decide

/-- A second question is answered: the path of a conflict is found, and a path that had no fsid gets
one, unless somebody else was faster. -/
theorem Stage.concludes (h : c.Stage paths now n) (hm : m.Holds paths) {first : StoreError}
    {answer : Answer q} (ha : (MemoryStore.source.ask q m).1 = answer)
    (hp : c.phase = .following first q) :
    Advances paths now n (Fails paths now cancelled c (.asks draw))
      (c.attemptEnded (c.request.conclude first (answer.map q.pair)) now draw cancelled) := by
  obtain ⟨path, run, hr, hattempts, rfl, hcases⟩ := h.of_following hp
  have hmost : run.attempts.toNat ≤ c.request.mostAttempts := by
    rw [hattempts]
    exact c.request.one_le_mostAttempts
  rcases hcases with ⟨hq, rfl, hmem⟩ | ⟨hq, rfl, rfl, hb⟩
  · obtain ⟨fsid, hfound, -⟩ := hm.fsidOf_of_mem hmem
    have hok : answer = .ok fsid := ha.symm.trans hfound
    rw [hok, hq]
    exact advances_of_ok hr hmost (by decide) _ draw cancelled
  · rw [hq]
    cases answer with
    | ok fsid => exact advances_of_ok hr hmost (by decide) _ draw cancelled
    | error e =>
      cases hm.refused ha with
      | taken _ hmem => exact LosesRace.advances ⟨hq, hp, hmem, hr, hattempts⟩ hb
      | full _ hmem hfull =>
        refine advances_of_permanent hr hmost (by decide) rfl fun error herror => ?_
        rw [hq] at herror
        cases herror
        exact .exhausted path draw (by rw [pending?, hp]) hmem hfull

/-- **Every answer of the store takes a call further.** -/
theorem Stage.asks (h : c.Stage paths now n) (hm : m.Holds paths) {answer : Answer q}
    (ha : (MemoryStore.source.ask q m).1 = answer)
    (hs : c.Step cache (.answered q answer now draw cancelled) d cache') :
    Advances paths now n (Fails paths now cancelled c (.asks draw)) d := by
  cases hs with
  | follows e next _ _ _ hp hf => exact h.follows hp (hm.refused ha) hf
  | ends answer _ _ _ hp hf =>
    cases answer with
    | ok value => exact h.answered hp _
    | error e => exact h.refused hp (hm.refused ha) (hf e rfl)
  | concludes first _ answer _ _ _ hp => exact h.concludes hm ha hp

end Call

end FsidRegistry

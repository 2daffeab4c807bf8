import FsidRegistry.Cache.Call
import FsidRegistry.Proofs.Store.Memory

/-!
# The steps of a call of the cache

`Call.step?` says what a call does with a cache and with the answers of a source.  This file turns
it into a relation, `Call.Step`, and proves what holds of every call, whatever cache and source it
works with.

* `Call.step?_eq_some_iff`: the relation says neither more nor less than the function.
* `AfterAttempt`, `Call.attemptEnded_cases`: where a call can stand after an attempt.
* `Call.Sound`, `Cache.Within`, `Call.Step.sound`: if the cache holds good pairs only and the source
  answers with good pairs only, so does the call, and a pair that a call finds is one that it was
  asked for.
* `Call.Step.missed`: a call finds nothing only by a first question that was answered so.
-/

namespace FsidRegistry

/-! ## Attempts -/

/-- Where a call can stand after an attempt that ended with `outcome`.  It is cancelled only if its
token was set. -/
inductive AfterAttempt (request : CacheRequest) (cancelled : Bool) :
    Except StoreError Pair → CallPhase → Prop
  | resolved (pair : Pair) : AfterAttempt request cancelled (.ok pair) (.keepingFsid pair)
  | fails (e : StoreError) :
    AfterAttempt request cancelled (.error e) (.finished (request.settle (.error (.store e))))
  | cancelled (e : StoreError) (hc : cancelled = true) :
    AfterAttempt request cancelled (.error e) (.finished (.error .cancelled))
  | pauses (e : StoreError) (wake : Instant) :
    AfterAttempt request cancelled (.error e) (.pausing wake)
  | faults (e : StoreError) (fault : Fault) :
    AfterAttempt request cancelled (.error e) (.faulted fault)

namespace Call

variable {c d : Call} {cache cache' : Cache} {e : CallEvent}

theorem afterAttempt_phaseOf (request : CacheRequest) (run : Retry.Run Pair)
    (outcome : Except StoreError Pair) (now : Instant) (draw : Nat) (cancelled : Bool) :
    AfterAttempt request cancelled outcome
      (phaseOf request (run.attemptEnded outcome now draw cancelled).phase) := by
  unfold Retry.Run.attemptEnded Retry.verdict
  cases outcome with
  | ok pair => exact .resolved pair
  | error e =>
    dsimp only
    by_cases hr : (!e.isRetryable) = true
    · rw [if_pos hr]
      exact .fails e
    rw [if_neg hr]
    cases run.backoff.pause draw with
    | error fault => exact .faults e fault
    | ok pause =>
      obtain ⟨pause, next⟩ := pause
      dsimp only
      cases now.after pause with
      | error fault => exact .faults e fault
      | ok wake =>
        dsimp only
        by_cases hd : run.deadline ≤ wake
        · rw [if_pos hd]
          exact .fails e
        rw [if_neg hd]
        by_cases hc : cancelled = true
        · rw [if_pos hc]
          exact .cancelled e hc
        · rw [if_neg hc]
          exact .pauses e wake

/-- A call that made an attempt keeps its request.  A call that has not started one stays. -/
theorem attemptEnded_cases (c : Call) (outcome : Except StoreError Pair) (now : Instant)
    (draw : Nat) (cancelled : Bool) :
    c.attemptEnded outcome now draw cancelled = c ∨
      ((c.attemptEnded outcome now draw cancelled).request = c.request ∧
        AfterAttempt c.request cancelled outcome
          (c.attemptEnded outcome now draw cancelled).phase) := by
  unfold attemptEnded
  cases c.run with
  | none => exact Or.inl rfl
  | some run => exact Or.inr ⟨rfl, afterAttempt_phaseOf c.request run outcome now draw cancelled⟩

/-! ## Steps -/

/-- The steps of a call. -/
inductive Step (c : Call) (cache : Cache) : CallEvent → Call → Cache → Prop
  | hits (now : Instant) (pair : Pair) (h : c.phase = .looking)
      (hc : c.request.cached? cache = some pair) :
    Step c cache (.looks now) { c with phase := .finished (.ok (some pair)) } cache
  | starts (now : Instant) (h : c.phase = .looking) (hc : c.request.cached? cache = none) :
    Step c cache (.looks now) (c.withRun (.start c.policy now)) cache
  | follows (e : StoreError) (next : Query) (now : Instant) (draw : Nat) (cancelled : Bool)
      (h : c.phase = .opening) (hf : c.request.followUp? e = some next) :
    Step c cache (.answered c.request.opening (.error e) now draw cancelled)
      { c with phase := .following e next } cache
  | ends (answer : Answer c.request.opening) (now : Instant) (draw : Nat) (cancelled : Bool)
      (h : c.phase = .opening) (hf : ∀ e, answer = .error e → c.request.followUp? e = none) :
    Step c cache (.answered c.request.opening answer now draw cancelled)
      (c.attemptEnded (answer.map c.request.opening.pair) now draw cancelled) cache
  | concludes (first : StoreError) (query : Query) (answer : Answer query) (now : Instant)
      (draw : Nat) (cancelled : Bool) (h : c.phase = .following first query) :
    Step c cache (.answered query answer now draw cancelled)
      (c.attemptEnded (c.request.conclude first (answer.map query.pair)) now draw cancelled) cache
  | resumes (wake now : Instant) (run : Retry.Run Pair) (h : c.phase = .pausing wake)
      (hr : c.run = some run) (hw : wake ≤ now) :
    Step c cache (.timerFires now) (c.withRun run.resume) cache
  | cancels (wake : Instant) (run : Retry.Run Pair) (h : c.phase = .pausing wake)
      (hr : c.run = some run) :
    Step c cache .cancellationSeen (c.withRun run.cancel) cache
  | keepsFsid (fsid : Fsid) (path : String) (h : c.phase = .keepingFsid (fsid, path)) :
    Step c cache .keeps { c with phase := .keepingPath (fsid, path) } (cache.keepFsid fsid path)
  | keepsPath (fsid : Fsid) (path : String) (h : c.phase = .keepingPath (fsid, path)) :
    Step c cache .keeps { c with phase := .finished (.ok (some (fsid, path))) }
      (cache.keepPath fsid path)

theorem step_of_answered {query : Query} {answer : Answer query} {now : Instant} {draw : Nat}
    {cancelled : Bool}
    (h : c.step? cache (.answered query answer now draw cancelled) = some (d, cache')) :
    Step c cache (.answered query answer now draw cancelled) d cache' := by
  rw [step?] at h
  by_cases hp : c.pending? = some query
  · rw [if_neg (not_not_intro hp)] at h
    unfold pending? at hp
    cases hphase : c.phase with
    | following first q =>
      rw [hphase] at h hp
      cases hp
      cases h
      exact .concludes first query answer now draw cancelled hphase
    | opening =>
      rw [hphase] at h hp
      cases hp
      cases answer with
      | ok value =>
        cases h
        exact .ends (.ok value) now draw cancelled hphase fun _ h => by cases h
      | error e =>
        dsimp only [Except.map] at h
        cases hf : c.request.followUp? e with
        | some next =>
          rw [hf] at h
          cases h
          exact .follows e next now draw cancelled hphase hf
        | none =>
          rw [hf] at h
          cases h
          exact .ends (.error e) now draw cancelled hphase fun e' he => by cases he; exact hf
    | _ => rw [hphase] at hp; cases hp
  · rw [if_pos hp] at h
    cases h

theorem step_of_step? (h : c.step? cache e = some (d, cache')) : Step c cache e d cache' := by
  cases e with
  | answered => exact step_of_answered h
  | looks now =>
    simp only [step?] at h
    split at h
    · split at h
      · cases h
        exact .hits now _ ‹_› ‹_›
      · cases h
        exact .starts now ‹_› ‹_›
    · cases h
  | timerFires now =>
    simp only [step?] at h
    split at h
    · split at h
      · cases h
        exact .resumes _ now _ ‹_› ‹_› ‹_›
      · cases h
    · cases h
  | cancellationSeen =>
    simp only [step?] at h
    split at h
    · cases h
      exact .cancels _ _ ‹_› ‹_›
    · cases h
  | keeps =>
    simp only [step?] at h
    split at h
    · cases h
      exact .keepsFsid _ _ ‹_›
    · cases h
      exact .keepsPath _ _ ‹_›
    · cases h

theorem Step.step? (h : Step c cache e d cache') : c.step? cache e = some (d, cache') := by
  cases h with
  | hits now pair h hc => simp only [Call.step?, h, hc]
  | starts now h hc => simp only [Call.step?, h, hc]
  | follows e next now draw cancelled h hf => simp [Call.step?, pending?, h, hf, Except.map]
  | ends answer now draw cancelled h hf =>
    cases answer with
    | ok value => simp [Call.step?, pending?, h, Except.map]
    | error e => simp [Call.step?, pending?, h, Except.map, hf e rfl]
  | concludes first query answer now draw cancelled h => simp [Call.step?, pending?, h]
  | resumes wake now run h hr hw => simp only [Call.step?, h, hr, if_pos hw]
  | cancels wake run h hr => simp only [Call.step?, h, hr]
  | keepsFsid fsid path h => simp only [Call.step?, h]
  | keepsPath fsid path h => simp only [Call.step?, h]

theorem step?_eq_some_iff : c.step? cache e = some (d, cache') ↔ Step c cache e d cache' :=
  ⟨step_of_step?, Step.step?⟩

/-- Whatever the source answers, the call can hear it. -/
theorem exists_answered {q : Query} (hq : c.pending? = some q) (cache : Cache) (answer : Answer q)
    (now : Instant) (draw : Nat) (cancelled : Bool) :
    ∃ d, c.Step cache (.answered q answer now draw cancelled) d cache := by
  unfold pending? at hq
  cases hp : c.phase with
  | opening =>
    rw [hp] at hq
    cases hq
    cases answer with
    | ok value => exact ⟨_, .ends (.ok value) now draw cancelled hp (by simp)⟩
    | error e =>
      cases hf : c.request.followUp? e with
      | some next => exact ⟨_, .follows e next now draw cancelled hp hf⟩
      | none =>
        refine ⟨_, .ends (.error e) now draw cancelled hp fun e' he => ?_⟩
        cases he
        exact hf
  | following first q' =>
    rw [hp] at hq
    cases hq
    exact ⟨_, .concludes first _ answer now draw cancelled hp⟩
  | _ => rw [hp] at hq; cases hq

theorem Step.request_eq (h : Step c cache e d cache') : d.request = c.request := by
  cases h with
  | ends answer now draw cancelled =>
    rcases attemptEnded_cases c (answer.map c.request.opening.pair) now draw cancelled
      with he | ⟨hr, _⟩
    · rw [he]
    · exact hr
  | concludes first query answer now draw cancelled =>
    rcases attemptEnded_cases c (c.request.conclude first (answer.map query.pair)) now draw
      cancelled with he | ⟨hr, _⟩
    · rw [he]
    · exact hr
  | _ => rfl

end Call

/-! ## Pairs -/

/-- The request is for a pair: it names the half that the pair has. -/
def CacheRequest.IsFor (pair : Pair) : CacheRequest → Prop
  | .fsidOf path | .allocate path | .fsidOrAllocate path => pair.2 = path
  | .pathOf fsid => pair.1 = fsid

/-- The pair that a call has found. -/
def CallPhase.pair? : CallPhase → Option Pair
  | .keepingFsid pair | .keepingPath pair | .finished (.ok (some pair)) => some pair
  | _ => none

/-- The second question of an attempt, while the source is asked it. -/
def CallPhase.second? : CallPhase → Option Query
  | .following _ query => some query
  | _ => none

/-- Both maps hold good pairs only. -/
structure Cache.Within (good : Pair → Prop) (cache : Cache) : Prop where
  fsids : ∀ path fsid, cache.fsids.get? path = some fsid → good (fsid, path)
  paths : ∀ fsid path, cache.paths.get? fsid = some path → good (fsid, path)

theorem CacheRequest.isFor_opening {request : CacheRequest} {pair : Pair} :
    request.opening.IsFor pair ↔ request.IsFor pair := by
  cases request <;> rfl

theorem CacheRequest.isFor_followUp {request : CacheRequest} {e : StoreError} {next : Query}
    (h : request.followUp? e = some next) :
    request.mayMiss = false ∧ ∀ pair, next.IsFor pair → request.IsFor pair := by
  cases request with
  | allocate path | fsidOrAllocate path =>
    rw [followUp?] at h
    split at h
    · cases h
      exact ⟨rfl, fun _ h => h⟩
    · cases h
  | fsidOf | pathOf => cases h

/-- A pair that ends an attempt is the answer to its last question. -/
theorem CacheRequest.conclude_eq_ok {request : CacheRequest} {first : StoreError}
    {answer : Except StoreError Pair} {pair : Pair} (h : request.conclude first answer = .ok pair) :
    answer = .ok pair := by
  cases request with
  | allocate path =>
    cases answer with
    | ok p => exact h
    | error e => cases h
  | _ => exact h

namespace Cache

variable {good good' : Pair → Prop} {cache : Cache}

theorem within_empty (enabled : Bool) : (empty enabled).Within good :=
  ⟨fun _ _ h => (by cases h), fun _ _ h => (by cases h)⟩

theorem Within.mono (h : cache.Within good) (hg : ∀ pair, good pair → good' pair) :
    cache.Within good' :=
  ⟨fun path fsid hp => hg _ (h.fsids path fsid hp), fun fsid path hp => hg _ (h.paths fsid path hp)⟩

theorem Within.keepFsid (h : cache.Within good) {fsid : Fsid} {path : String}
    (hp : good (fsid, path)) : (cache.keepFsid fsid path).Within good := by
  unfold Cache.keepFsid
  split
  · refine ⟨fun p f hf => ?_, h.paths⟩
    rw [Dictionary.get?_insert] at hf
    split at hf
    · rename_i he
      rw [← he, ← Option.some.inj hf]
      exact hp
    · exact h.fsids p f hf
  · exact h

theorem Within.keepPath (h : cache.Within good) {fsid : Fsid} {path : String}
    (hp : good (fsid, path)) : (cache.keepPath fsid path).Within good := by
  unfold Cache.keepPath
  split
  · refine ⟨h.fsids, fun f p hf => ?_⟩
    rw [Dictionary.get?_insert] at hf
    split at hf
    · rename_i he
      rw [← he, ← Option.some.inj hf]
      exact hp
    · exact h.paths f p hf
  · exact h

/-- What the cache has for a request is a good pair that the request is for. -/
theorem Within.cached (h : cache.Within good) {request : CacheRequest} {pair : Pair}
    (hc : request.cached? cache = some pair) : good pair ∧ request.IsFor pair := by
  cases request with
  | pathOf fsid =>
    obtain ⟨path, hp, rfl⟩ := Option.map_eq_some_iff.mp hc
    unfold pathOf? at hp
    split at hp
    · exact ⟨h.paths fsid path hp, rfl⟩
    · cases hp
  | fsidOf path | allocate path | fsidOrAllocate path =>
    obtain ⟨fsid, hf, rfl⟩ := Option.map_eq_some_iff.mp hc
    unfold fsidOf? at hf
    split at hf
    · exact ⟨h.fsids path fsid hf, rfl⟩
    · cases hf

end Cache

namespace Call

variable {good good' : Pair → Prop} {c d : Call} {cache cache' : Cache} {e : CallEvent}

/-- A call has found a good pair only, and one that it was asked for; and it asks for such pairs. -/
structure Sound (good : Pair → Prop) (c : Call) : Prop where
  found : ∀ pair, c.phase.pair? = some pair → good pair ∧ c.request.IsFor pair
  second : ∀ query, c.phase.second? = some query →
    c.request.mayMiss = false ∧ ∀ pair, query.IsFor pair → c.request.IsFor pair

theorem Sound.mono (h : c.Sound good) (hg : ∀ pair, good pair → good' pair) : c.Sound good' :=
  ⟨fun pair hp => ⟨hg pair (h.found pair hp).1, (h.found pair hp).2⟩, h.second⟩

/-- A call that has found no pair and asks no second question is sound. -/
theorem sound_of_none (hp : c.phase.pair? = none) (hq : c.phase.second? = none) : c.Sound good := by
  refine ⟨fun pair h => ?_, fun query h => ?_⟩
  · rw [hp] at h
    cases h
  · rw [hq] at h
    cases h

theorem sound_of_found {pair : Pair} (h : good pair ∧ c.request.IsFor pair)
    (hp : c.phase.pair? = some pair) (hq : c.phase.second? = none) : c.Sound good := by
  refine ⟨fun p h' => ?_, fun query h' => by rw [hq] at h'; cases h'⟩
  rw [hp] at h'
  exact Option.some.inj h' ▸ h

theorem sound_begin (policy : Retry.Policy) (request : CacheRequest) :
    (begin policy request).Sound good :=
  sound_of_none rfl rfl

/-- After an attempt a call is sound if the attempt found a good pair that the call was asked
for. -/
theorem Sound.attemptEnded (h : c.Sound good) {outcome : Except StoreError Pair}
    (ho : ∀ pair, outcome = .ok pair → good pair ∧ c.request.IsFor pair) (now : Instant)
    (draw : Nat) (cancelled : Bool) : (c.attemptEnded outcome now draw cancelled).Sound good := by
  rcases attemptEnded_cases c outcome now draw cancelled with he | ⟨hr, ha⟩
  · rw [he]
    exact h
  · generalize c.attemptEnded outcome now draw cancelled = d at hr ha
    obtain ⟨request, policy, run, phase⟩ := d
    dsimp only at hr ha
    subst hr
    cases ha with
    | resolved pair => exact sound_of_found (ho pair rfl) rfl rfl
    | fails e =>
      refine sound_of_none ?_ rfl
      dsimp only [CacheRequest.settle]
      split <;> rfl
    | _ => exact sound_of_none rfl rfl

theorem sound_start (c : Call) (now : Instant) :
    (c.withRun (.start c.policy now)).Sound good := by
  unfold withRun Retry.Run.start
  cases now.after c.policy.deadline with
  | ok deadline => exact sound_of_none rfl rfl
  | error fault => exact sound_of_none rfl rfl

/-- **A call over a cache of good pairs and a source that answers with good pairs finds good pairs
that it was asked for**, and keeps only such pairs. -/
theorem Step.sound (hstep : Step c cache e d cache') (hw : cache.Within good) (h : c.Sound good)
    (ha : ∀ query value now draw cancelled, e = .answered query (.ok value) now draw cancelled →
      good (query.pair value)) : d.Sound good ∧ cache'.Within good := by
  cases hstep with
  | hits now pair _ hc =>
    exact ⟨sound_of_found (hw.cached hc) rfl rfl, hw⟩
  | starts now => exact ⟨sound_start c now, hw⟩
  | follows e next now draw cancelled _ hf =>
    refine ⟨⟨fun pair hp => ?_, fun query hq => ?_⟩, hw⟩
    · cases hp
    · cases hq
      exact CacheRequest.isFor_followUp hf
  | ends answer now draw cancelled =>
    refine ⟨h.attemptEnded (fun pair hp => ?_) now draw cancelled, hw⟩
    cases answer with
    | error e => cases hp
    | ok value =>
      cases hp
      exact ⟨ha _ value now draw cancelled rfl,
        CacheRequest.isFor_opening.mp (c.request.opening.isFor_pair value)⟩
  | concludes first query answer now draw cancelled hq =>
    refine ⟨h.attemptEnded (fun pair hp => ?_) now draw cancelled, hw⟩
    have hp := CacheRequest.conclude_eq_ok hp
    cases answer with
    | error e => cases hp
    | ok value =>
      cases hp
      exact ⟨ha _ value now draw cancelled rfl,
        (h.second query (by rw [hq]; rfl)).2 _ (query.isFor_pair value)⟩
  | resumes => exact ⟨sound_of_none rfl rfl, hw⟩
  | cancels => exact ⟨sound_of_none rfl rfl, hw⟩
  | keepsFsid fsid path hp =>
    have hpair := h.found (fsid, path) (by rw [hp]; rfl)
    exact ⟨sound_of_found hpair rfl rfl, hw.keepFsid hpair.1⟩
  | keepsPath fsid path hp =>
    have hpair := h.found (fsid, path) (by rw [hp]; rfl)
    exact ⟨sound_of_found hpair rfl rfl, hw.keepPath hpair.1⟩

/-- What a call has found it keeps. -/
theorem Step.pair?_eq (hstep : Step c cache e d cache') {pair : Pair}
    (hp : c.phase.pair? = some pair) : d.phase.pair? = some pair := by
  cases hstep with
  | keepsFsid fsid path h | keepsPath fsid path h =>
    rw [h] at hp
    exact hp
  | hits _ _ h | starts _ h | follows _ _ _ _ _ h | ends _ _ _ _ h | concludes _ _ _ _ _ _ h
  | resumes _ _ _ h | cancels _ _ h =>
    rw [h] at hp
    cases hp

/-- A call is about to allocate no path but the one that it was asked for. -/
theorem Sound.request_of_allocate (h : c.Sound good) {path : String}
    (hq : c.pending? = some (.allocate path)) :
    c.request = .allocate path ∨ c.request = .fsidOrAllocate path := by
  unfold pending? at hq
  split at hq
  · have hrequest := Option.some.inj hq
    cases hr : c.request with
    | allocate p =>
      rw [hr] at hrequest
      cases hrequest
      exact .inl rfl
    | fsidOf | fsidOrAllocate | pathOf =>
      rw [hr] at hrequest
      cases hrequest
  · rename_i first query hp
    cases hq
    obtain ⟨hm, hfor⟩ := h.second (.allocate path) (by rw [hp]; rfl)
    have hpath := hfor (.first, path) rfl
    cases hr : c.request with
    | allocate p =>
      rw [hr] at hpath
      exact .inl (congrArg _ hpath.symm)
    | fsidOrAllocate p =>
      rw [hr] at hpath
      exact .inr (congrArg _ hpath.symm)
    | fsidOf | pathOf =>
      rw [hr] at hm
      cases hm
  · cases hq

/-- An attempt ends a call with nothing found only by an error that says so, and only if the
request may find nothing. -/
theorem AfterAttempt.missed {request : CacheRequest} {cancelled : Bool}
    {outcome : Except StoreError Pair}
    (h : AfterAttempt request cancelled outcome (.finished (.ok none))) :
    request.mayMiss = true ∧ ∃ e, outcome = .error e ∧ e.isNotFound = true := by
  generalize hp : CallPhase.finished (.ok none) = phase at h
  cases h with
  | fails e =>
    injection hp with hp
    rw [CacheRequest.settle] at hp
    split at hp
    · rename_i hm
      rw [Bool.and_eq_true] at hm
      exact ⟨hm.1, e, rfl, hm.2⟩
    · cases hp
  | _ => cases hp

/-- **A call finds nothing only when its first question is answered so.** -/
theorem Step.missed (hstep : Step c cache e d cache') (h : c.Sound good)
    (hd : d.phase = .finished (.ok none)) (hc : c.phase ≠ .finished (.ok none)) :
    ∃ error now draw cancelled, e = .answered c.request.opening (.error error) now draw cancelled ∧
      error.isNotFound = true := by
  cases hstep with
  | hits | follows | keepsFsid | keepsPath | resumes | cancels => cases hd
  | starts now =>
    unfold withRun Retry.Run.start at hd
    cases hn : now.after c.policy.deadline <;> rw [hn] at hd <;> cases hd
  | ends answer now draw cancelled hp =>
    rcases attemptEnded_cases c (answer.map c.request.opening.pair) now draw cancelled
      with he | ⟨_, ha⟩
    · exact absurd (he ▸ hd) hc
    · rw [hd] at ha
      obtain ⟨_, error, ho, hnf⟩ := AfterAttempt.missed ha
      cases answer with
      | ok value => cases ho
      | error error' =>
        cases ho
        exact ⟨error, now, draw, cancelled, rfl, hnf⟩
  | concludes first query answer now draw cancelled hp =>
    rcases attemptEnded_cases c (c.request.conclude first (answer.map query.pair)) now draw
      cancelled with he | ⟨_, ha⟩
    · exact absurd (he ▸ hd) hc
    · rw [hd] at ha
      obtain ⟨hm, _⟩ := AfterAttempt.missed ha
      rw [(h.second query (by rw [hp]; rfl)).1] at hm
      cases hm

end Call

end FsidRegistry

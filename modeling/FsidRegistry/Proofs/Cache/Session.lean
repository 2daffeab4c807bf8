import FsidRegistry.Proofs.Cache.Bijection
import FsidRegistry.Proofs.Cache.Transparency

/-!
# What a cache keeps

Calls are made on one cache, one after the other, and nothing is assumed of the source: it may answer
every question with any value or any error, and answer the same question differently the next time.
Whatever it does, the cache changes only at the end of a call that has resolved a pair, and then in the
two keys of that pair only.

* `Call.Alone`: what a call has made of the cache that it began with; `Call.Alone.step` is the case
  analysis on which everything rests.
* `Cache.Calls`, `Cache.Session`: caches after a call and after any number of them.
* `Cache.Serves`: a key that is there is answered for by the cache alone.
* `Cache.session_keeps_resolved_pairs`: all of this, after every session.
-/

namespace FsidRegistry

/-! ## Calls by themselves -/

theorem AfterAttempt.pair?_cases {request : CacheRequest} {cancelled : Bool}
    {outcome : Except StoreError Pair} {phase : CallPhase}
    (h : AfterAttempt request cancelled outcome phase) :
    phase.pair? = none ∨ ∃ pair, outcome = .ok pair ∧ phase = .keepingFsid pair := by
  cases h with
  | resolved pair => exact Or.inr ⟨pair, rfl, rfl⟩
  | fails e =>
    refine Or.inl ?_
    rw [CacheRequest.settle]
    split <;> rfl
  | _ => exact Or.inl rfl

namespace Call

variable {c d : Call} {cache cache' before : Cache} {e : CallEvent} {seen es : List CallEvent}

/-- The call and the cache after a list of events, if they can happen in that order. -/
def steps? (c : Call) (cache : Cache) : List CallEvent → Option (Call × Cache)
  | [] => some (c, cache)
  | e :: es => (c.step? cache e).bind fun x => x.1.steps? x.2 es

/-- The source has answered with a pair. -/
def Answered (es : List CallEvent) (pair : Pair) : Prop :=
  ∃ query value now draw cancelled,
    CallEvent.answered query (.ok value) now draw cancelled ∈ es ∧ query.pair value = pair

theorem Answered.append {pair : Pair} (h : Answered seen pair) (es : List CallEvent) :
    Answered (seen ++ es) pair := by
  obtain ⟨query, value, now, draw, cancelled, hmem, hpair⟩ := h
  exact ⟨query, value, now, draw, cancelled, List.mem_append_left es hmem, hpair⟩

/-- What a call that nobody else disturbs has made of the cache that it began with. -/
inductive Alone (before : Cache) (seen : List CallEvent) (c : Call) : Cache → Prop
  | unresolved (hp : c.phase.pair? = none)
      (hm : c.phase = .looking ∨ c.request.cached? before = none) : Alone before seen c before
  | hit (pair : Pair) (hp : c.phase = .finished (.ok (some pair)))
      (hc : c.request.cached? before = some pair) : Alone before seen c before
  | resolved (pair : Pair) (hp : c.phase = .keepingFsid pair) (hm : c.request.cached? before = none)
      (ha : Answered seen pair) : Alone before seen c before
  | half (pair : Pair) (hp : c.phase = .keepingPath pair) (hm : c.request.cached? before = none)
      (ha : Answered seen pair) : Alone before seen c (before.keepFsid pair.1 pair.2)
  | kept (pair : Pair) (hp : c.phase = .finished (.ok (some pair)))
      (hm : c.request.cached? before = none) (ha : Answered seen pair) :
      Alone before seen c (before.keep pair.1 pair.2)

theorem alone_begin (policy : Retry.Policy) (request : CacheRequest) :
    Alone before [] (begin policy request) before :=
  .unresolved rfl (Or.inl rfl)

/-- Before a pair is found, the cache is as it was. -/
theorem Alone.eq_before (h : Alone before seen c cache) (hp : c.phase.pair? = none) :
    cache = before ∧ (c.phase = .looking ∨ c.request.cached? before = none) := by
  cases h with
  | unresolved _ hm => exact ⟨rfl, hm⟩
  | hit _ hp' | resolved _ hp' | half _ hp' | kept _ hp' => rw [hp'] at hp; cases hp

theorem Alone.missed (h : Alone before seen c cache) (hp : c.phase.pair? = none)
    (hl : c.phase ≠ .looking) : cache = before ∧ c.request.cached? before = none :=
  (h.eq_before hp).imp_right fun hm => hm.resolve_left hl

/-- After an attempt, a call has found the pair that was answered last, or none. -/
theorem Alone.attemptEnded (h : Alone before seen c cache) (hp : c.phase.pair? = none)
    (hl : c.phase ≠ .looking) {outcome : Except StoreError Pair}
    (ha : ∀ pair, outcome = .ok pair → Answered es pair) (now : Instant) (draw : Nat)
    (cancelled : Bool) : Alone before es (c.attemptEnded outcome now draw cancelled) cache := by
  obtain ⟨rfl, hm⟩ := h.missed hp hl
  rcases attemptEnded_cases c outcome now draw cancelled with he | ⟨hr, hafter⟩
  · rw [he]
    exact .unresolved hp (Or.inr hm)
  · rw [← hr] at hm
    rcases hafter.pair?_cases with hnone | ⟨pair, ho, hpair⟩
    · exact .unresolved hnone (Or.inr hm)
    · exact .resolved pair hpair hm (ha pair ho)

theorem answered_of_map {query : Query} {answer : Answer query} {now : Instant} {draw : Nat}
    {cancelled : Bool} {pair : Pair} (h : answer.map query.pair = .ok pair) :
    Answered (seen ++ [.answered query answer now draw cancelled]) pair := by
  cases answer with
  | error e => cases h
  | ok value =>
    cases h
    exact ⟨query, value, now, draw, cancelled, by simp, rfl⟩

theorem Alone.step (h : Alone before seen c cache) (hs : Step c cache e d cache') :
    Alone before (seen ++ [e]) d cache' := by
  cases hs with
  | hits now pair hp hc =>
    obtain ⟨rfl, -⟩ := h.eq_before (by rw [hp]; rfl)
    exact .hit pair rfl hc
  | starts now hp hc =>
    obtain ⟨rfl, -⟩ := h.eq_before (by rw [hp]; rfl)
    refine .unresolved ?_ (Or.inr hc)
    unfold withRun Retry.Run.start
    cases now.after c.policy.deadline <;> rfl
  | follows error next now draw cancelled hp hf =>
    obtain ⟨rfl, hm⟩ := h.missed (by rw [hp]; rfl) (by simp [hp])
    exact .unresolved rfl (Or.inr hm)
  | ends answer now draw cancelled hp hf =>
    exact h.attemptEnded (by rw [hp]; rfl) (by simp [hp])
      (fun pair ho => answered_of_map ho) now draw cancelled
  | concludes first query answer now draw cancelled hp =>
    exact h.attemptEnded (by rw [hp]; rfl) (by simp [hp])
      (fun pair ho => answered_of_map (CacheRequest.conclude_eq_ok ho)) now draw cancelled
  | resumes wake now run hp hr hw =>
    obtain ⟨rfl, hm⟩ := h.missed (by rw [hp]; rfl) (by simp [hp])
    exact .unresolved rfl (Or.inr hm)
  | cancels wake run hp hr =>
    obtain ⟨rfl, hm⟩ := h.missed (by rw [hp]; rfl) (by simp [hp])
    exact .unresolved rfl (Or.inr hm)
  | keepsFsid fsid path hp =>
    cases h with
    | resolved pair hp' hm ha =>
      rw [hp] at hp'
      cases hp'
      exact .half (fsid, path) rfl hm (ha.append _)
    | unresolved hp' | hit _ hp' | half _ hp' | kept _ hp' => rw [hp] at hp'; cases hp'
  | keepsPath fsid path hp =>
    cases h with
    | half pair hp' hm ha =>
      rw [hp] at hp'
      cases hp'
      exact .kept (fsid, path) rfl hm (ha.append _)
    | unresolved hp' | hit _ hp' | resolved _ hp' | kept _ hp' => rw [hp] at hp'; cases hp'

theorem Alone.steps (h : Alone before seen c cache) (hs : c.steps? cache es = some (d, cache')) :
    Alone before (seen ++ es) d cache' := by
  induction es generalizing c cache seen with
  | nil =>
    cases hs
    rw [List.append_nil]
    exact h
  | cons e es ih =>
    obtain ⟨⟨c', between⟩, hstep, hrest⟩ := Option.bind_eq_some_iff.mp hs
    rw [List.append_cons]
    exact ih (h.step (step?_eq_some_iff.mp hstep)) hrest

/-- A call keeps its request, and finds a pair that the request is for. -/
theorem isFor_of_steps? (h : c.Sound fun _ => True) (hs : c.steps? cache es = some (d, cache')) :
    d.request = c.request ∧ ∀ pair, d.phase.pair? = some pair → c.request.IsFor pair := by
  induction es generalizing c cache with
  | nil =>
    cases hs
    exact ⟨rfl, fun pair hp => (h.found pair hp).2⟩
  | cons e es ih =>
    obtain ⟨⟨c', between⟩, hstep, hrest⟩ := Option.bind_eq_some_iff.mp hs
    have hstep := step?_eq_some_iff.mp hstep
    have hall : cache.Within fun _ => True := ⟨fun _ _ _ => trivial, fun _ _ _ => trivial⟩
    obtain ⟨hsound, -⟩ := hstep.sound hall h fun _ _ _ _ _ _ => trivial
    rw [← hstep.request_eq]
    exact ih hsound hrest

/-- The call that finds a pair in the cache. -/
def served (policy : Retry.Policy) (request : CacheRequest) (pair : Pair) : Call :=
  ⟨request, policy, none, .finished (.ok (some pair))⟩

end Call

namespace CallPhase

/-- Nothing can happen to a call that is over. -/
theorem IsOver.step?_eq_none {c : Call} (h : c.phase.IsOver) (cache : Cache) (e : CallEvent) :
    c.step? cache e = none := by
  cases hs : c.step? cache e with
  | none => rfl
  | some x =>
    obtain ⟨d, cache'⟩ := x
    cases Call.step?_eq_some_iff.mp hs with
    | hits _ _ hp | starts _ hp | follows _ _ _ _ _ hp | ends _ _ _ _ hp | concludes _ _ _ _ _ _ hp
    | resumes _ _ _ hp | cancels _ _ hp | keepsFsid _ _ hp | keepsPath _ _ hp =>
      rw [hp] at h
      cases h

end CallPhase

/-! ## Sessions -/

namespace Cache

variable {cache before after : Cache} {request : CacheRequest} {pair : Pair}

theorem keep_of_disabled (h : before.enabled = false) (fsid : Fsid) (path : String) :
    before.keep fsid path = before := by
  simp [keep, keepFsid, keepPath, h]

theorem keep_of_enabled (h : before.enabled = true) (fsid : Fsid) (path : String) :
    before.keep fsid path =
      ⟨true, before.fsids.insert path fsid, before.paths.insert fsid path⟩ := by
  simp [keep, keepFsid, keepPath, h]

theorem enabled_keep (cache : Cache) (fsid : Fsid) (path : String) :
    (cache.keep fsid path).enabled = cache.enabled := by
  cases h : cache.enabled with
  | true => rw [keep_of_enabled h]
  | false => rw [keep_of_disabled h, h]

/-- A path that is a key stays one. -/
theorem exists_fsid_keep {path : String} {f : Fsid} (h : before.fsids.get? path = some f)
    (fsid : Fsid) (p : String) : ∃ f', (before.keep fsid p).fsids.get? path = some f' := by
  cases he : before.enabled with
  | false => exact ⟨f, by rw [keep_of_disabled he, h]⟩
  | true =>
    rw [keep_of_enabled he]
    exact Dictionary.exists_get?_of_insert h p fsid

/-- An fsid that is a key stays one. -/
theorem exists_path_keep {fsid : Fsid} {p : String} (h : before.paths.get? fsid = some p) (f : Fsid)
    (path : String) : ∃ p', (before.keep f path).paths.get? fsid = some p' := by
  cases he : before.enabled with
  | false => exact ⟨p, by rw [keep_of_disabled he, h]⟩
  | true =>
    rw [keep_of_enabled he]
    exact Dictionary.exists_get?_of_insert h f path

/-- The cache before and after a call that nobody else disturbs. -/
def Calls (before after : Cache) : Prop :=
  ∃ policy request es c, (Call.begin policy request).steps? before es = some (c, after) ∧
    c.phase.IsOver

/-- The cache before and after any number of calls, one after the other. -/
def Session : Cache → Cache → Prop := Relation.ReflTransGen Calls

/-- Calls for a request are answered by the cache alone: they end when they look into it, whenever
that is, and no question is asked and no attempt is counted. -/
def Serves (cache : Cache) (request : CacheRequest) (pair : Pair) : Prop :=
  ∀ policy, (∀ now, (Call.begin policy request).steps? cache [.looks now] =
      some (.served policy request pair, cache)) ∧
    ∀ es c after, (Call.begin policy request).steps? cache es = some (c, after) → c.phase.IsOver →
      (∃ now, es = [.looks now]) ∧ c.phase = .finished (.ok (some pair)) ∧ c.attempts = 0 ∧
        after = cache

theorem serves_of_cached? (hc : request.cached? cache = some pair) : cache.Serves request pair := by
  intro policy
  have hlooks : ∀ now, (Call.begin policy request).step? cache (.looks now) =
      some (.served policy request pair, cache) := fun now =>
    Call.step?_eq_some_iff.mpr (.hits now pair rfl hc)
  refine ⟨fun now => ?_, fun es c after hs hover => ?_⟩
  · rw [Call.steps?, hlooks]
    rfl
  · cases es with
    | nil => cases hs; cases hover
    | cons e es =>
      obtain ⟨⟨c', between⟩, hstep, hrest⟩ := Option.bind_eq_some_iff.mp hs
      cases Call.step?_eq_some_iff.mp hstep with
      | starts now hp hmiss =>
        have : request.cached? cache = none := hmiss
        rw [hc] at this
        cases this
      | hits now pair' hp hhit =>
        have : request.cached? cache = some pair' := hhit
        obtain rfl := Option.some.inj (hc.symm.trans this)
        cases es with
        | nil => cases hrest; exact ⟨⟨now, rfl⟩, rfl, rfl, rfl⟩
        | cons e es =>
          have hnone : (Call.served policy request pair).step? cache e = none :=
            CallPhase.IsOver.step?_eq_none (c := .served policy request pair) trivial cache e
          have hrest : (Call.served policy request pair).steps? cache (e :: es) =
            some (c, after) := hrest
          rw [Call.steps?, hnone] at hrest
          cases hrest
      | follows _ _ _ _ _ hp | ends _ _ _ _ hp | concludes _ _ _ _ _ _ hp | resumes _ _ _ hp
      | cancels _ _ hp | keepsFsid _ _ hp | keepsPath _ _ hp => cases hp

/-- A call keeps one pair or none. -/
theorem Calls.eq_or_keep (h : Calls before after) :
    after = before ∨ ∃ pair : Pair, after = before.keep pair.1 pair.2 := by
  obtain ⟨policy, request, es, c, hs, hover⟩ := h
  cases (Call.alone_begin policy request).steps hs with
  | unresolved | hit | resolved => exact Or.inl rfl
  | half pair hp => rw [hp] at hover; cases hover
  | kept pair => exact Or.inr ⟨pair, rfl⟩

/-- What every kept pair leaves is left by every session. -/
theorem Session.induct {P : Cache → Prop} (h : Session before after) (hb : P before)
    (hk : ∀ cache fsid path, P cache → P (cache.keep fsid path)) : P after := by
  induction h with
  | refl => exact hb
  | tail _ hc ih =>
    rcases hc.eq_or_keep with rfl | ⟨pair, rfl⟩
    · exact ih
    · exact hk _ _ _ ih

theorem Session.enabled_eq (h : Session before after) : after.enabled = before.enabled :=
  h.induct (P := fun cache => cache.enabled = before.enabled) rfl fun cache fsid path he =>
    (enabled_keep cache fsid path).trans he

theorem Session.eq_of_disabled (h : Session before after) (hd : before.enabled = false) :
    after = before := by
  refine h.induct (P := fun cache => cache = before) rfl ?_
  rintro cache fsid path rfl
  exact keep_of_disabled hd fsid path

theorem Session.exists_fsid (h : Session before after) {path : String} {fsid : Fsid}
    (hf : before.fsids.get? path = some fsid) : ∃ f, after.fsids.get? path = some f := by
  refine h.induct (P := fun cache => ∃ f, cache.fsids.get? path = some f) ⟨fsid, hf⟩ ?_
  rintro cache f p ⟨f', hf'⟩
  exact exists_fsid_keep hf' f p

theorem Session.exists_path (h : Session before after) {fsid : Fsid} {path : String}
    (hp : before.paths.get? fsid = some path) : ∃ p, after.paths.get? fsid = some p := by
  refine h.induct (P := fun cache => ∃ p, cache.paths.get? fsid = some p) ⟨path, hp⟩ ?_
  rintro cache f p ⟨p', hp'⟩
  exact exists_path_keep hp' f p

/-- An enabled cache answers for the paths and fsids that are keys in it. -/
theorem serves_fsid (he : cache.enabled = true) {path : String} {fsid : Fsid}
    (hf : cache.fsids.get? path = some fsid) :
    cache.Serves (.fsidOf path) (fsid, path) ∧ cache.Serves (.allocate path) (fsid, path) ∧
      cache.Serves (.fsidOrAllocate path) (fsid, path) := by
  have hc : cache.fsidOf? path = some fsid := by rw [fsidOf?, if_pos he, hf]
  refine ⟨serves_of_cached? ?_, serves_of_cached? ?_, serves_of_cached? ?_⟩ <;>
    simp [CacheRequest.cached?, hc]

theorem serves_path (he : cache.enabled = true) {fsid : Fsid} {path : String}
    (hp : cache.paths.get? fsid = some path) : cache.Serves (.pathOf fsid) (fsid, path) := by
  have hc : cache.pathOf? fsid = some path := by rw [pathOf?, if_pos he, hp]
  exact serves_of_cached? (by simp [CacheRequest.cached?, hc])

/-- What a call changes when it has come to an end on its own. -/
structure Changes (before after : Cache) (request : CacheRequest) (es : List CallEvent)
    (phase : CallPhase) : Prop where
  /-- Nothing, if no value is returned. -/
  fails : (∃ e, phase = .finished (.error e)) ∨ phase = .finished (.ok none) ∨
    (∃ fault, phase = .faulted fault) → after = before
  /-- The two keys of the pair, if it was not there before; and the source has answered with it. -/
  misses : ∀ pair, phase = .finished (.ok (some pair)) → request.cached? before = none →
    before.enabled = true → request.IsFor pair ∧ Call.Answered es pair ∧ after.enabled = true ∧
      (∀ path, after.fsids.get? path =
        if pair.2 = path then some pair.1 else before.fsids.get? path) ∧
      ∀ fsid, after.paths.get? fsid = if pair.1 = fsid then some pair.2 else before.paths.get? fsid

theorem changes_of_steps? {policy : Retry.Policy} {es : List CallEvent} {c : Call}
    (hs : (Call.begin policy request).steps? before es = some (c, after)) :
    Changes before after request es c.phase := by
  have halone := (Call.alone_begin policy request).steps hs
  obtain ⟨hrequest, hfor⟩ := Call.isFor_of_steps? (Call.sound_begin policy request) hs
  have hr : c.request = request := hrequest
  refine ⟨fun hp => ?_, fun pair hp hm he => ?_⟩
  · refine (halone.eq_before ?_).1
    rcases hp with ⟨e, hp⟩ | hp | ⟨fault, hp⟩ <;> rw [hp] <;> rfl
  · have hpair : request.IsFor pair := hfor pair (by rw [hp]; rfl)
    cases halone with
    | unresolved hp' => rw [hp] at hp'; cases hp'
    | hit pair' hp' hc => rw [hr, hm] at hc; cases hc
    | resolved pair' hp' | half pair' hp' => rw [hp] at hp'; cases hp'
    | kept pair' hp' hm' ha =>
      rw [hp] at hp'
      cases hp'
      rw [keep_of_enabled he]
      refine ⟨hpair, ha, rfl, fun path => ?_, fun fsid => ?_⟩
      · exact Dictionary.get?_insert ..
      · exact Dictionary.get?_insert ..

/-- **Only resolved pairs are kept**: whatever the source does, a call that returns no value leaves both
maps as they were, and one that returns a value that was not there changes exactly the two keys of its
pair.  A path or an fsid that is a key stays one through every later session, and calls for it are
answered with its current entry by the cache alone.  A disabled cache keeps nothing. -/
theorem session_keeps_resolved_pairs {enabled : Bool} (h : Session (.empty enabled) before) :
    (∀ policy request es c after,
      (Call.begin policy request).steps? before es = some (c, after) →
        Changes before after request es c.phase) ∧
    (∀ path fsid, before.fsids.get? path = some fsid → ∀ later, Session before later →
      ∃ f, later.fsids.get? path = some f ∧ later.Serves (.fsidOf path) (f, path) ∧
        later.Serves (.allocate path) (f, path) ∧ later.Serves (.fsidOrAllocate path) (f, path)) ∧
    (∀ fsid path, before.paths.get? fsid = some path → ∀ later, Session before later →
      ∃ p, later.paths.get? fsid = some p ∧ later.Serves (.pathOf fsid) (fsid, p)) ∧
    (enabled = false → before = .empty false) := by
  have hdisabled : enabled = false → before = .empty false := by
    rintro rfl
    exact h.eq_of_disabled rfl
  have henabled : before ≠ .empty false → ∀ later, Session before later → later.enabled = true := by
    intro hne later hl
    cases enabled with
    | false => exact absurd (hdisabled rfl) hne
    | true => exact hl.enabled_eq.trans h.enabled_eq
  refine ⟨fun policy request es c after hs => changes_of_steps? hs, ?_, ?_, hdisabled⟩
  · intro path fsid hf later hl
    obtain ⟨f, hf'⟩ := hl.exists_fsid hf
    refine ⟨f, hf', serves_fsid (henabled ?_ later hl) hf'⟩
    rintro rfl
    cases hf
  · intro fsid path hp later hl
    obtain ⟨p, hp'⟩ := hl.exists_path hp
    refine ⟨p, hp', serves_path (henabled ?_ later hl) hp'⟩
    rintro rfl
    cases hp

/-- A source that takes one pair back for another: both paths stay keys, and the fsid has the later
one. -/
theorem session_keeps_resolved_pairs_of_contradiction :
    ∃ before, Session (.empty true) before ∧ before.Serves (.fsidOf "/b") (.first, "/b") ∧
      before.Serves (.pathOf .first) (.first, "/a") := by
  have hfails : Calls (.empty true) (.empty true) :=
    ⟨{}, .fsidOrAllocate "/a", [.looks 0, .answered (.fsidOf "/a") (.error .notFound) 1 0 false,
      .answered (.allocate "/a") (.error (.other "full")) 2 0 false], _, rfl, trivial⟩
  have hpath : Calls (.empty true) ((empty true).keep .first "/b") :=
    ⟨{}, .pathOf .first, [.looks 3, .answered (.pathOf .first) (.ok "/b") 4 0 false, .keeps, .keeps],
      _, rfl, trivial⟩
  have hfsid : Calls ((empty true).keep .first "/b")
      (((empty true).keep .first "/b").keep .first "/a") :=
    ⟨{}, .fsidOf "/a", [.looks 5, .answered (.fsidOf "/a") (.ok .first) 6 0 false, .keeps, .keeps],
      _, rfl, trivial⟩
  have hsession : Session (.empty true) (((empty true).keep .first "/b").keep .first "/a") :=
    ((Relation.ReflTransGen.single hfails).tail hpath).tail hfsid
  obtain ⟨-, hfsids, hpaths, -⟩ := session_keeps_resolved_pairs hsession
  obtain ⟨f, hf, hserves, -⟩ := hfsids "/b" .first rfl _ .refl
  obtain ⟨p, hp, hserves'⟩ := hpaths .first "/a" rfl _ .refl
  cases hf
  cases hp
  exact ⟨_, hsession, hserves, hserves'⟩

end Cache

end FsidRegistry

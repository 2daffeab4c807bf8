import Mathlib.Logic.Relation
import FsidRegistry.Proofs.Cache.Step
import FsidRegistry.Proofs.Dictionary

/-!
# The two maps of a cache are inverse to each other

Any number of calls run at the same time on one enabled cache.  The source is not a store here: it
may answer any question with any error, and every value that it answers with belongs to a pair of a
fixed one to one correspondence.  The two halves of a pair are kept in two steps, between which any
other call may move.

* `Call.Step.keeps_cases`: what a step of a call does to the maps, and which calls have kept one
  half only.
* `Cache.HalfKept`: the maps are inverse to each other but for the pairs of which one half is kept;
  `HalfKept.keepFsid` and `HalfKept.keepPath` say what keeping a half does to this.
* `Traffic.Reachable.kept`: the invariant, over all runs.
* `Traffic.maps_are_inverse`: while no call has kept one half only, the maps are inverse to each
  other.
-/

namespace FsidRegistry

/-- Good pairs are one to one. -/
def OneToOne (good : Pair → Prop) : Prop :=
  ∀ p q, good p → good q → (p.1 = q.1 ↔ p.2 = q.2)

/-! ## Steps of calls -/

/-- The pair of which a call has kept the fsid and not yet the path. -/
def CallPhase.half? : CallPhase → Option Pair
  | .keepingPath pair => some pair
  | _ => none

/-- No attempt ends between the halves of a pair. -/
theorem AfterAttempt.half?_eq_none {request : CacheRequest} {cancelled : Bool}
    {outcome : Except StoreError Pair} {phase : CallPhase}
    (h : AfterAttempt request cancelled outcome phase) : phase.half? = none := by
  cases h <;> rfl

namespace Call

variable {c d : Call} {cache cache' : Cache} {e : CallEvent}

theorem half?_attemptEnded (h : c.phase.half? = none) (outcome : Except StoreError Pair)
    (now : Instant) (draw : Nat) (cancelled : Bool) :
    (c.attemptEnded outcome now draw cancelled).phase.half? = none := by
  rcases attemptEnded_cases c outcome now draw cancelled with he | ⟨_, ha⟩
  · rw [he]
    exact h
  · exact ha.half?_eq_none

theorem half?_start (c : Call) (now : Instant) :
    (c.withRun (.start c.policy now)).phase.half? = none := by
  unfold withRun Retry.Run.start
  cases now.after c.policy.deadline <;> rfl

/-- A step of a call keeps the fsid of a pair, keeps the path of a pair, or leaves the maps. -/
theorem Step.keeps_cases (h : Step c cache e d cache') :
    (c.phase.half? = none ∧ d.phase.half? = none ∧ cache' = cache) ∨
    (∃ fsid path, c.phase = .keepingFsid (fsid, path) ∧ d.phase = .keepingPath (fsid, path) ∧
      cache' = cache.keepFsid fsid path) ∨
    ∃ fsid path, c.phase = .keepingPath (fsid, path) ∧ d.phase.half? = none ∧
      cache' = cache.keepPath fsid path := by
  cases h with
  | hits now pair h => exact .inl ⟨by rw [h]; rfl, rfl, rfl⟩
  | starts now h => exact .inl ⟨by rw [h]; rfl, half?_start c now, rfl⟩
  | follows e next now draw cancelled h => exact .inl ⟨by rw [h]; rfl, rfl, rfl⟩
  | ends answer now draw cancelled h =>
    have hc : c.phase.half? = none := by rw [h]; rfl
    exact .inl ⟨hc, half?_attemptEnded hc _ now draw cancelled, rfl⟩
  | concludes first query answer now draw cancelled h =>
    have hc : c.phase.half? = none := by rw [h]; rfl
    exact .inl ⟨hc, half?_attemptEnded hc _ now draw cancelled, rfl⟩
  | resumes wake now run h => exact .inl ⟨by rw [h]; rfl, rfl, rfl⟩
  | cancels wake run h => exact .inl ⟨by rw [h]; rfl, rfl, rfl⟩
  | keepsFsid fsid path h => exact .inr (.inl ⟨fsid, path, h, rfl, rfl⟩)
  | keepsPath fsid path h => exact .inr (.inr ⟨fsid, path, h, rfl, rfl⟩)

end Call

/-! ## Halves of pairs -/

namespace Cache

variable {good half half' : Pair → Prop} {cache : Cache}

/-- The maps are inverse to each other. -/
def Inverse (cache : Cache) : Prop :=
  ∀ path fsid, cache.fsids.get? path = some fsid ↔ cache.paths.get? fsid = some path

/-- The maps are inverse to each other, but for some pairs of which the fsid is kept and the path may
not be. -/
structure HalfKept (half : Pair → Prop) (cache : Cache) : Prop where
  enabled : cache.enabled = true
  fsids : ∀ fsid path, half (fsid, path) → cache.fsids.get? path = some fsid
  back : ∀ fsid path, cache.paths.get? fsid = some path → cache.fsids.get? path = some fsid
  forth : ∀ fsid path, cache.fsids.get? path = some fsid →
    cache.paths.get? fsid = some path ∨ half (fsid, path)

theorem halfKept_empty (half : Pair → Prop) (hn : ∀ pair, ¬ half pair) :
    (empty true).HalfKept half where
  enabled := rfl
  fsids _ _ h := (hn _ h).elim
  back _ _ h := by cases h
  forth _ _ h := by cases h

theorem HalfKept.congr (h : cache.HalfKept half) (hh : ∀ pair, half' pair ↔ half pair) :
    cache.HalfKept half' where
  enabled := h.enabled
  fsids fsid path hp := h.fsids fsid path ((hh _).mp hp)
  back := h.back
  forth fsid path hp := (h.forth fsid path hp).imp_right (hh _).mpr

/-- What is kept for the path of a good pair is the fsid of that pair. -/
theorem Within.fsid_eq (hw : cache.Within good) (ho : OneToOne good) {fsid fsid' : Fsid}
    {path : String} (hp : good (fsid, path)) (hf : cache.fsids.get? path = some fsid') :
    fsid' = fsid :=
  (ho (fsid', path) (fsid, path) (hw.fsids path fsid' hf) hp).mpr rfl

theorem Within.path_eq (hw : cache.Within good) (ho : OneToOne good) {fsid : Fsid}
    {path path' : String} (hp : good (fsid, path)) (hf : cache.paths.get? fsid = some path') :
    path' = path :=
  (ho (fsid, path') (fsid, path) (hw.paths fsid path' hf) hp).mp rfl

/-- Keeping the fsid of a good pair makes it one of which one half is kept. -/
theorem HalfKept.keepFsid (h : cache.HalfKept half) (hw : cache.Within good) (ho : OneToOne good)
    {fsid : Fsid} {path : String} (hp : good (fsid, path))
    (hh : ∀ pair, half' pair ↔ half pair ∨ pair = (fsid, path)) :
    (cache.keepFsid fsid path).HalfKept half' := by
  have hget : ∀ p f, (cache.fsids.insert path fsid).get? p = some f ↔
      cache.fsids.get? p = some f ∨ (p = path ∧ f = fsid) := fun _ _ =>
    Dictionary.get?_insert_of_agree fun _ hf => hw.fsid_eq ho hp hf
  rw [Cache.keepFsid, if_pos h.enabled]
  refine ⟨h.enabled, fun f p hhalf => (hget p f).mpr ?_, fun f p hf => (hget p f).mpr ?_,
    fun f p hf => ?_⟩
  · rcases (hh _).mp hhalf with hhalf | he
    · exact .inl (h.fsids f p hhalf)
    · cases he
      exact .inr ⟨rfl, rfl⟩
  · exact .inl (h.back f p hf)
  · rcases (hget p f).mp hf with hf | ⟨rfl, rfl⟩
    · exact (h.forth f p hf).imp_right fun hhalf => (hh _).mpr (.inl hhalf)
    · exact .inr ((hh _).mpr (.inr rfl))

/-- Keeping the path of such a pair makes the maps inverse to each other for it. -/
theorem HalfKept.keepPath (h : cache.HalfKept half) (hw : cache.Within good) (ho : OneToOne good)
    {fsid : Fsid} {path : String} (hp : good (fsid, path))
    (hh : ∀ pair, half pair ↔ half' pair ∨ pair = (fsid, path)) :
    (cache.keepPath fsid path).HalfKept half' := by
  have hget : ∀ f p, (cache.paths.insert fsid path).get? f = some p ↔
      cache.paths.get? f = some p ∨ (f = fsid ∧ p = path) := fun _ _ =>
    Dictionary.get?_insert_of_agree fun _ hf => hw.path_eq ho hp hf
  rw [Cache.keepPath, if_pos h.enabled]
  refine ⟨h.enabled, fun f p hhalf => h.fsids f p ((hh _).mpr (.inl hhalf)), fun f p hf => ?_,
    fun f p hf => ?_⟩
  · rcases (hget f p).mp hf with hf | ⟨rfl, rfl⟩
    · exact h.back f p hf
    · exact h.fsids f p ((hh _).mpr (.inr rfl))
  · rcases h.forth f p hf with hf | hhalf
    · exact .inl ((hget f p).mpr (.inl hf))
    · -- Another call may have kept one half of the same pair: then it is still among them.
      rcases (hh _).mp hhalf with hhalf | he
      · exact .inr hhalf
      · cases he
        exact .inl ((hget fsid path).mpr (.inr ⟨rfl, rfl⟩))

theorem HalfKept.inverse (h : cache.HalfKept half) (hn : ∀ pair, ¬ half pair) : cache.Inverse :=
  fun path fsid =>
    ⟨fun hf => (h.forth fsid path hf).resolve_right (hn _), h.back fsid path⟩

end Cache

/-! ## Calls on one cache -/

/-- A cache and the calls made on it. -/
structure Traffic where
  cache : Cache
  calls : Dictionary Nat Call := ∅

/-- What happens in a step. -/
inductive TrafficEvent
  | begins (id : Nat) (policy : Retry.Policy) (request : CacheRequest)
  | moves (id : Nat) (event : CallEvent)

/-- A value that the source answers with belongs to a good pair. -/
def CallEvent.IsGood (good : Pair → Prop) : CallEvent → Prop
  | .answered query (.ok value) _ _ _ => good (query.pair value)
  | _ => True

def TrafficEvent.IsGood (good : Pair → Prop) : TrafficEvent → Prop
  | .begins .. => True
  | .moves _ event => event.IsGood good

namespace Traffic

/-- The cache and its calls after a step, if it can be made. -/
def step? (s : Traffic) : TrafficEvent → Option Traffic
  | .begins id policy request =>
    if s.calls.contains id then none
    else some { s with calls := s.calls.insert id (.begin policy request) }
  | .moves id e =>
    (s.calls.get? id).bind fun c => (c.step? s.cache e).map fun x =>
      { cache := x.2, calls := s.calls.insert id x.1 }

/-- The cache and its calls after a list of steps, if they can be made in that order. -/
def steps? (s : Traffic) : List TrafficEvent → Option Traffic
  | [] => some s
  | e :: es => (s.step? e).bind (·.steps? es)

variable {good : Pair → Prop} {s t : Traffic} {e : TrafficEvent}

/-- One step, over a source that answers with good pairs. -/
def Next (good : Pair → Prop) (s t : Traffic) : Prop := ∃ e, e.IsGood good ∧ s.step? e = some t

/-- What can come of an enabled cache without pairs. -/
def Reachable (good : Pair → Prop) : Traffic → Prop :=
  Relation.ReflTransGen (Next good) { cache := .empty true }

theorem reachable_of_steps? {es : List TrafficEvent} (hs : Reachable good s)
    (hg : ∀ e ∈ es, e.IsGood good) (h : s.steps? es = some t) : Reachable good t := by
  induction es generalizing s with
  | nil => cases h; exact hs
  | cons e es ih =>
    obtain ⟨u, hu, h⟩ := Option.bind_eq_some_iff.mp h
    exact ih (hs.tail ⟨e, hg e List.mem_cons_self, hu⟩)
      (fun e he => hg e (List.mem_cons_of_mem _ he)) h

/-- A call has kept the fsid of a pair and not yet its path. -/
def Half (s : Traffic) (pair : Pair) : Prop :=
  ∃ id c, s.calls.get? id = some c ∧ c.phase.half? = some pair

/-- A call other than `id` has kept the fsid of a pair and not yet its path. -/
def HalfBeside (s : Traffic) (id : Nat) (pair : Pair) : Prop :=
  ∃ id' c, id' ≠ id ∧ s.calls.get? id' = some c ∧ c.phase.half? = some pair

theorem half_iff {id : Nat} {c : Call} (hc : s.calls.get? id = some c) (pair : Pair) :
    s.Half pair ↔ s.HalfBeside id pair ∨ c.phase.half? = some pair := by
  constructor
  · rintro ⟨id', c', hc', hp⟩
    by_cases hid : id' = id
    · subst hid
      rw [hc] at hc'
      exact .inr (Option.some.inj hc' ▸ hp)
    · exact .inl ⟨id', c', hid, hc', hp⟩
  · rintro (⟨id', c', _, hc', hp⟩ | hp)
    · exact ⟨id', c', hc', hp⟩
    · exact ⟨id, c, hc, hp⟩

theorem half_insert_iff (id : Nat) (d : Call) (cache : Cache) (pair : Pair) :
    Half ⟨cache, s.calls.insert id d⟩ pair ↔
      s.HalfBeside id pair ∨ d.phase.half? = some pair := by
  have hd : (s.calls.insert id d).get? id = some d := by
    rw [Dictionary.get?_insert, if_pos rfl]
  rw [half_iff hd]
  refine or_congr_left ⟨?_, ?_⟩
  · rintro ⟨id', c, hid, hc, hp⟩
    rw [Dictionary.get?_insert, if_neg (Ne.symm hid)] at hc
    exact ⟨id', c, hid, hc, hp⟩
  · rintro ⟨id', c, hid, hc, hp⟩
    refine ⟨id', c, hid, ?_, hp⟩
    rw [Dictionary.get?_insert, if_neg (Ne.symm hid)]
    exact hc

/-- The cache and the calls hold good pairs only, and the maps are inverse to each other but for the
pairs that calls have kept one half of. -/
structure Kept (good : Pair → Prop) (s : Traffic) : Prop where
  cache : s.cache.Within good
  calls : ∀ id c, s.calls.get? id = some c → c.Sound good
  half : s.cache.HalfKept s.Half

theorem Kept.begins (h : Kept good s) {id : Nat} (hid : s.calls.get? id = none)
    (policy : Retry.Policy) (request : CacheRequest) :
    Kept good { s with calls := s.calls.insert id (.begin policy request) } := by
  refine ⟨h.cache, fun id' c hc => ?_, h.half.congr fun pair => ?_⟩
  · rw [Dictionary.get?_insert] at hc
    split at hc
    · exact Option.some.inj hc ▸ Call.sound_begin policy request
    · exact h.calls id' c hc
  · rw [half_insert_iff]
    constructor
    · rintro (⟨id', c, _, hc, hp⟩ | hp)
      · exact ⟨id', c, hc, hp⟩
      · cases hp
    · rintro ⟨id', c, hc, hp⟩
      refine .inl ⟨id', c, ?_, hc, hp⟩
      rintro rfl
      rw [hid] at hc
      cases hc

theorem Kept.moves (ho : OneToOne good) (h : Kept good s) {id : Nat} {c d : Call} {cache : Cache}
    {e : CallEvent} (he : e.IsGood good) (hc : s.calls.get? id = some c)
    (hstep : c.Step s.cache e d cache) : Kept good ⟨cache, s.calls.insert id d⟩ := by
  have hsound := h.calls id c hc
  obtain ⟨hd, hcache⟩ := hstep.sound h.cache hsound fun query value now draw cancelled ha => by
    subst ha
    exact he
  refine ⟨hcache, fun id' c' hc' => ?_, ?_⟩
  · rw [Dictionary.get?_insert] at hc'
    split at hc'
    · exact Option.some.inj hc' ▸ hd
    · exact h.calls id' c' hc'
  have hbefore := half_iff hc
  have hafter : ∀ pair, Half ⟨cache, s.calls.insert id d⟩ pair ↔ _ :=
    half_insert_iff (s := s) id d cache
  rcases hstep.keeps_cases with ⟨hp, hq, rfl⟩ | ⟨fsid, path, hp, hq, rfl⟩ | ⟨fsid, path, hp, hq, rfl⟩
  · refine h.half.congr fun pair => ?_
    rw [hafter, hbefore, hp, hq]
  · refine h.half.keepFsid h.cache ho (hsound.found (fsid, path) (by rw [hp]; rfl)).1 fun pair => ?_
    rw [hafter, hbefore, hp, hq]
    simp [CallPhase.half?, eq_comm]
  · refine h.half.keepPath h.cache ho (hsound.found (fsid, path) (by rw [hp]; rfl)).1 fun pair => ?_
    rw [hafter, hbefore, hp, hq]
    simp [CallPhase.half?, eq_comm]

theorem Next.kept (ho : OneToOne good) (hn : Next good s t) (h : Kept good s) : Kept good t := by
  obtain ⟨e, he, hstep⟩ := hn
  cases e with
  | begins id policy request =>
    rw [step?] at hstep
    split at hstep
    · cases hstep
    · rename_i hid
      cases hstep
      exact h.begins (Dictionary.contains_eq_false_iff.mp hid) policy request
  | moves id e =>
    obtain ⟨c, hc, hstep⟩ := Option.bind_eq_some_iff.mp hstep
    obtain ⟨⟨d, cache⟩, hd, rfl⟩ := Option.map_eq_some_iff.mp hstep
    exact h.moves ho he hc (Call.step?_eq_some_iff.mp hd)

theorem Reachable.kept (ho : OneToOne good) (h : Reachable good s) : Kept good s := by
  induction h with
  | refl =>
    refine ⟨Cache.within_empty true, fun _ _ hc => (by cases hc), Cache.halfKept_empty _ ?_⟩
    rintro pair ⟨id, c, hc, _⟩
    cases hc
  | tail _ hn ih => exact hn.kept ho ih

/-- **The maps of a cache hold good pairs only, and while no call has kept one half of a pair only,
they are inverse to each other** and of one size, whatever order the steps of the calls come in. -/
theorem maps_are_inverse (ho : OneToOne good) (h : Reachable good s) :
    s.cache.Within good ∧
      ((∀ pair, ¬ s.Half pair) → s.cache.Inverse ∧ s.cache.size = s.cache.paths.size) := by
  have hkept := h.kept ho
  refine ⟨hkept.cache, fun hn => ?_⟩
  have hinv : s.cache.Inverse := hkept.half.inverse hn
  exact ⟨hinv, Dictionary.size_eq_of_inverse hinv⟩

/-- An allocation and a lookup race for one pair: both keep its fsid before either keeps its path. -/
theorem maps_are_inverse_raced :
    ∃ s : Traffic, Reachable (Numbered ["/a"]) s ∧ (∀ pair, ¬ s.Half pair) ∧ s.cache.size = 1 ∧
      s.cache.Inverse := by
  let es : List TrafficEvent :=
    [.begins 0 {} (.allocate "/a"), .begins 1 {} (.pathOf .first), .moves 0 (.looks 0),
      .moves 1 (.looks 0), .moves 0 (.answered (.allocate "/a") (.ok .first) 0 0 false),
      .moves 1 (.answered (.pathOf .first) (.ok "/a") 0 0 false), .moves 0 .keeps, .moves 1 .keeps,
      .moves 0 .keeps, .moves 1 .keeps]
  have ho : OneToOne (Numbered ["/a"]) := fun p q hp hq =>
    Numbered.fsid_eq_iff (List.nodup_singleton "/a") hp hq
  have hgood : ∀ e ∈ es, e.IsGood (Numbered ["/a"]) := by
    have hpair : Numbered ["/a"] (.first, "/a") := ⟨0, rfl, rfl⟩
    simp [es, TrafficEvent.IsGood, CallEvent.IsGood, Query.pair, hpair]
  have hrun : (steps? { cache := .empty true } es).any (fun s =>
      s.calls.entries.all (fun x => x.2.phase.half?.isNone) && s.cache.size == 1) = true := by
    decide +kernel
  obtain ⟨s, hs, hdone⟩ := (Option.any_eq_true _ _).mp hrun
  obtain ⟨hall, hsize⟩ := Bool.and_eq_true_iff.mp hdone
  have hn : ∀ pair, ¬ s.Half pair := by
    rintro pair ⟨id, c, hc, hp⟩
    have hnone := List.all_eq_true.mp hall (id, c) (Dictionary.mem_entries_iff.mpr hc)
    rw [hp] at hnone
    cases hnone
  have hreach : Reachable (Numbered ["/a"]) s := reachable_of_steps? .refl hgood hs
  exact ⟨s, hreach, hn, beq_iff_eq.mp hsize, ((maps_are_inverse ho hreach).2 hn).1⟩

end Traffic

end FsidRegistry

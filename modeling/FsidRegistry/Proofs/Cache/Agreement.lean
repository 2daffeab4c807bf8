import Mathlib.Logic.Relation
import FsidRegistry.Proofs.Cache.Step
import FsidRegistry.Proofs.Dictionary

/-!
# Caches that share a store agree

Any number of caches, enabled or not, work over one memory store, and any number of calls run on
them at the same time.  A step is one step of one call: a look into a map, a question to the store,
a half of keeping a pair, the end of a pause.  A question may also fail, before it takes effect or
after, with any error but one that says that there is no such row.

* `Sharing.step?`, `Sharing.step?_eq_some_iff`: the steps, as a function and as a relation.
* `Sharing.Agreed`, `Sharing.Step.agreed`: whatever the caches keep and the calls find is what the
  store has issued.
* `Sharing.Since`, `Sharing.Since.step`: what a call that begins later finds nothing for.
* `Sharing.allocations_agree`: the answers, over all runs.
-/

namespace FsidRegistry

/-! ## Disturbed questions -/

/-- What becomes of a question to a store. -/
inductive StoreCall
  | answers
  /-- It fails before it takes effect. -/
  | failsBefore (error : StoreError)
  /-- It fails after it has taken effect. -/
  | failsAfter (error : StoreError)

namespace StoreCall

/-- A failure does not say that there is no such row. -/
def isAllowed : StoreCall → Bool
  | .answers => true
  | .failsBefore e | .failsAfter e => !e.isNotFound

/-- The answer to a question and the store after it. -/
def ask (call : StoreCall) (s : MemoryStore) (q : Query) : Answer q × MemoryStore :=
  match call with
  | .answers => MemoryStore.source.ask q s
  | .failsBefore e => (.error e, s)
  | .failsAfter e => (.error e, (MemoryStore.source.ask q s).2)

/-- The pairs that the store issues. -/
def issues (call : StoreCall) (s : MemoryStore) (q : Query) : List Pair :=
  match call with
  | .failsBefore _ => []
  | .answers | .failsAfter _ => s.newlyIssued q

end StoreCall

/-! ## Steps -/

/-- Caches over one store, and the calls made on them. -/
structure Sharing where
  store : MemoryStore := .empty
  caches : Dictionary Nat Cache := ∅
  /-- The calls, each with its cache. -/
  calls : Dictionary Nat (Nat × Call) := ∅
  /-- The pairs that the store has issued, oldest first. -/
  issued : List Pair := []

/-- What happens in a step. -/
inductive SharingEvent
  /-- A cache is set up. -/
  | opens (cache : Nat) (enabled : Bool)
  | begins (id cache : Nat) (policy : Retry.Policy) (request : CacheRequest)
  /-- A step of a call that does not ask the store. -/
  | moves (id : Nat) (event : CallEvent)
  /-- A call asks the store. -/
  | asks (id : Nat) (call : StoreCall) (now : Instant) (draw : Nat) (cancelled : Bool)

/-- Whether an event brings an answer. -/
def CallEvent.isAnswer : CallEvent → Bool
  | .answered .. => true
  | _ => false

namespace Sharing

/-- The call and its cache replaced. -/
def setCall (s : Sharing) (id k : Nat) (c : Call) (cache : Cache) : Sharing :=
  { s with calls := s.calls.insert id (k, c), caches := s.caches.insert k cache }

/-- The caches after a step of a call. -/
def moveCall? (s : Sharing) (id k : Nat) (c : Call) (e : CallEvent) : Option Sharing :=
  (s.caches.get? k).bind fun cache => (c.step? cache e).map fun x => s.setCall id k x.1 x.2

/-- The caches after a step, if it can be made. -/
def step? (s : Sharing) : SharingEvent → Option Sharing
  | .opens k enabled =>
    if s.caches.contains k then none
    else some { s with caches := s.caches.insert k (.empty enabled) }
  | .begins id k policy request =>
    if s.calls.contains id then none
    else some { s with calls := s.calls.insert id (k, .begin policy request) }
  | .moves id e =>
    if e.isAnswer then none else (s.calls.get? id).bind fun x => s.moveCall? id x.1 x.2 e
  | .asks id call now draw cancelled =>
    if call.isAllowed then
      (s.calls.get? id).bind fun x => x.2.pending?.bind fun q =>
        { s with
          store := (call.ask s.store q).2
          issued := s.issued ++ call.issues s.store q }.moveCall? id x.1 x.2
            (.answered q (call.ask s.store q).1 now draw cancelled)
    else none

/-- The steps of caches that share a store. -/
inductive Step (s : Sharing) : SharingEvent → Sharing → Prop
  | opens (k : Nat) (enabled : Bool) (h : s.caches.get? k = none) :
    Step s (.opens k enabled) { s with caches := s.caches.insert k (.empty enabled) }
  | begins (id k : Nat) (policy : Retry.Policy) (request : CacheRequest)
      (h : s.calls.get? id = none) :
    Step s (.begins id k policy request)
      { s with calls := s.calls.insert id (k, .begin policy request) }
  | moves (id k : Nat) (c d : Call) (cache cache' : Cache) (e : CallEvent)
      (he : e.isAnswer = false) (hc : s.calls.get? id = some (k, c))
      (hk : s.caches.get? k = some cache) (h : c.Step cache e d cache') :
    Step s (.moves id e) (s.setCall id k d cache')
  | asks (id k : Nat) (c d : Call) (cache cache' : Cache) (call : StoreCall) (q : Query)
      (now : Instant) (draw : Nat) (cancelled : Bool) (ha : call.isAllowed = true)
      (hc : s.calls.get? id = some (k, c)) (hk : s.caches.get? k = some cache)
      (h : c.Step cache (.answered q (call.ask s.store q).1 now draw cancelled) d cache') :
    Step s (.asks id call now draw cancelled)
      ({ s with
          store := (call.ask s.store q).2
          issued := s.issued ++ call.issues s.store q }.setCall id k d cache')

variable {s t u : Sharing} {e : SharingEvent}

theorem moveCall?_eq_some_iff {id k : Nat} {c : Call} {e : CallEvent} :
    s.moveCall? id k c e = some t ↔
      ∃ cache d cache', s.caches.get? k = some cache ∧ c.Step cache e d cache' ∧
        t = s.setCall id k d cache' := by
  rw [moveCall?, Option.bind_eq_some_iff]
  constructor
  · rintro ⟨cache, hk, h⟩
    obtain ⟨⟨d, cache'⟩, hs, rfl⟩ := Option.map_eq_some_iff.mp h
    exact ⟨cache, d, cache', hk, Call.step?_eq_some_iff.mp hs, rfl⟩
  · rintro ⟨cache, d, cache', hk, h, rfl⟩
    exact ⟨cache, hk, Option.map_eq_some_iff.mpr ⟨(d, cache'), Call.step?_eq_some_iff.mpr h, rfl⟩⟩

theorem pending?_eq_of_answered {c d : Call} {cache cache' : Cache} {q : Query} {answer : Answer q}
    {now : Instant} {draw : Nat} {cancelled : Bool}
    (h : c.Step cache (.answered q answer now draw cancelled) d cache') : c.pending? = some q := by
  cases h with
  | follows e next now draw cancelled h => rw [Call.pending?, h]
  | ends answer now draw cancelled h => rw [Call.pending?, h]
  | concludes first query answer now draw cancelled h => rw [Call.pending?, h]

theorem step?_eq_some_iff : s.step? e = some t ↔ Step s e t := by
  constructor
  · intro h
    cases e with
    | opens k enabled =>
      rw [step?] at h
      split at h
      · cases h
      · rename_i hk
        cases h
        exact .opens k enabled (Dictionary.contains_eq_false_iff.mp hk)
    | begins id k policy request =>
      rw [step?] at h
      split at h
      · cases h
      · rename_i hk
        cases h
        exact .begins id k policy request (Dictionary.contains_eq_false_iff.mp hk)
    | moves id e =>
      rw [step?] at h
      split at h
      · cases h
      · rename_i he
        obtain ⟨⟨k, c⟩, hc, h⟩ := Option.bind_eq_some_iff.mp h
        obtain ⟨cache, d, cache', hk, hs, rfl⟩ := moveCall?_eq_some_iff.mp h
        exact .moves id k c d cache cache' e (Bool.eq_false_iff.mpr he) hc hk hs
    | asks id call now draw cancelled =>
      rw [step?] at h
      split at h
      · rename_i ha
        obtain ⟨⟨k, c⟩, hc, h⟩ := Option.bind_eq_some_iff.mp h
        obtain ⟨q, _, h⟩ := Option.bind_eq_some_iff.mp h
        obtain ⟨cache, d, cache', hk, hs, rfl⟩ := moveCall?_eq_some_iff.mp h
        exact .asks id k c d cache cache' call q now draw cancelled ha hc hk hs
      · cases h
  · intro h
    cases h with
    | opens k enabled h => rw [step?, if_neg (Dictionary.contains_eq_false_iff.mpr h)]
    | begins id k policy request h => rw [step?, if_neg (Dictionary.contains_eq_false_iff.mpr h)]
    | moves id k c d cache cache' e he hc hk h =>
      rw [step?, if_neg (Bool.eq_false_iff.mp he), hc, Option.bind_some]
      exact moveCall?_eq_some_iff.mpr ⟨cache, d, cache', hk, h, rfl⟩
    | asks id k c d cache cache' call q now draw cancelled ha hc hk h =>
      rw [step?, if_pos ha, hc, Option.bind_some]
      dsimp only
      rw [pending?_eq_of_answered h, Option.bind_some]
      exact moveCall?_eq_some_iff.mpr ⟨cache, d, cache', hk, h, rfl⟩

/-- One step. -/
def Next (s t : Sharing) : Prop := ∃ e, s.step? e = some t

/-- Any number of steps, in any order. -/
abbrev Steps : Sharing → Sharing → Prop := Relation.ReflTransGen Next

/-- What can come of a new store. -/
def Reachable (s : Sharing) : Prop := Steps {} s

/-- The caches after a list of steps, if they can be made in that order. -/
def steps? (s : Sharing) : List SharingEvent → Option Sharing
  | [] => some s
  | e :: es => (s.step? e).bind (·.steps? es)

theorem steps_of_steps? {es : List SharingEvent} (h : s.steps? es = some t) : Steps s t := by
  induction es generalizing s with
  | nil => cases h; exact .refl
  | cons e es ih =>
    obtain ⟨u, hu, h⟩ := Option.bind_eq_some_iff.mp h
    exact .head ⟨e, hu⟩ (ih h)

/-! ## What the store has issued -/

/-- The store has issued a pair. -/
def Knows (s : Sharing) (pair : Pair) : Prop := Numbered (s.issued.map Prod.snd) pair

/-- Whatever the caches keep and the calls find is what the store has issued. -/
structure Agreed (s : Sharing) : Prop where
  store : s.store.Holds (s.issued.map Prod.snd)
  issued : ∀ pair ∈ s.issued, s.Knows pair
  caches : ∀ k cache, s.caches.get? k = some cache → cache.Within s.Knows
  calls : ∀ id k c, s.calls.get? id = some (k, c) → c.Sound s.Knows

/-- What a question to a store leaves behind, however it is disturbed. -/
theorem Agreed.asked (h : Agreed s) (call : StoreCall) (q : Query) :
    (call.ask s.store q).2.Holds ((s.issued ++ call.issues s.store q).map Prod.snd) ∧
      (∀ pair ∈ call.issues s.store q,
        Numbered ((s.issued ++ call.issues s.store q).map Prod.snd) pair) ∧
      ∀ value, (call.ask s.store q).1 = .ok value →
        Numbered ((s.issued ++ call.issues s.store q).map Prod.snd) (q.pair value) := by
  obtain ⟨after, ha⟩ := h.store.asked q
  have hafter := ha.grows
  rw [← List.map_append] at hafter
  subst hafter
  cases call with
  | answers => exact ⟨ha.holds, ha.issued, ha.ok⟩
  | failsAfter e => exact ⟨ha.holds, ha.issued, fun _ h => by cases h⟩
  | failsBefore e =>
    refine ⟨?_, fun _ hp => (List.not_mem_nil hp).elim, fun _ h => by cases h⟩
    show s.store.Holds ((s.issued ++ []).map Prod.snd)
    rw [List.append_nil]
    exact h.store

/-- A question that is answered by nothing found was asked for a pair that the store has not
issued. -/
theorem Agreed.not_knows_of_notFound (h : Agreed s) {call : StoreCall} (ha : call.isAllowed = true)
    {q : Query} {e : StoreError} (he : (call.ask s.store q).1 = .error e)
    (hnf : e.isNotFound = true) {pair : Pair} (hp : q.IsFor pair) : ¬ s.Knows pair := by
  cases call with
  | answers =>
    obtain ⟨_, hasked⟩ := h.store.asked q
    exact hasked.notFound e he hnf pair hp
  | failsBefore e' | failsAfter e' =>
    cases he
    rw [StoreCall.isAllowed, hnf] at ha
    cases ha

theorem Step.knows (hstep : Step s e t) {pair : Pair} (h : s.Knows pair) : t.Knows pair := by
  cases hstep with
  | asks id k c d cache cache' call q =>
    show Numbered ((s.issued ++ call.issues s.store q).map Prod.snd) pair
    rw [List.map_append]
    exact h.append _
  | _ => exact h

/-- A step that replaces one call and its cache by sound ones. -/
theorem agreed_setCall {id k : Nat} {d : Call} {cache : Cache}
    (hcaches : ∀ k cache, s.caches.get? k = some cache → cache.Within s.Knows)
    (hcalls : ∀ id k c, s.calls.get? id = some (k, c) → c.Sound s.Knows)
    (hstore : s.store.Holds (s.issued.map Prod.snd)) (hissued : ∀ pair ∈ s.issued, s.Knows pair)
    (hd : d.Sound s.Knows) (hcache : cache.Within s.Knows) : Agreed (s.setCall id k d cache) := by
  refine ⟨hstore, hissued, fun k' cache' hk => ?_, fun id' k' c hc => ?_⟩
  · rw [setCall, Dictionary.get?_insert] at hk
    split at hk
    · exact Option.some.inj hk ▸ hcache
    · exact hcaches k' cache' hk
  · rw [setCall, Dictionary.get?_insert] at hc
    split at hc
    · cases hc
      exact hd
    · exact hcalls id' k' c hc

/-- **Every step keeps the caches and the calls in line with the store.** -/
theorem Step.agreed (hstep : Step s e t) (h : Agreed s) : Agreed t := by
  cases hstep with
  | opens k enabled =>
    refine ⟨h.store, h.issued, fun k' cache hk => ?_, h.calls⟩
    rw [Dictionary.get?_insert] at hk
    split at hk
    · exact Option.some.inj hk ▸ Cache.within_empty enabled
    · exact h.caches k' cache hk
  | begins id k policy request =>
    refine ⟨h.store, h.issued, h.caches, fun id' k' c hc => ?_⟩
    rw [Dictionary.get?_insert] at hc
    split at hc
    · cases hc
      exact Call.sound_begin policy request
    · exact h.calls id' k' c hc
  | moves id k c d cache cache' e he hc hk hstep =>
    obtain ⟨hd, hcache⟩ := hstep.sound (h.caches k cache hk) (h.calls id k c hc)
      fun _ _ _ _ _ ha => by rw [ha] at he; cases he
    exact agreed_setCall h.caches h.calls h.store h.issued hd hcache
  | asks id k c d cache cache' call q now draw cancelled _ hc hk hstep =>
    -- The list has grown before the caller knows, whether it is told the answer or an error.
    obtain ⟨hstore, hissued, hok⟩ := h.asked call q
    have hgrows : ∀ pair, s.Knows pair →
        Numbered ((s.issued ++ call.issues s.store q).map Prod.snd) pair := by
      intro pair hp
      rw [List.map_append]
      exact hp.append _
    obtain ⟨hd, hcache⟩ := hstep.sound ((h.caches k cache hk).mono hgrows)
      ((h.calls id k c hc).mono hgrows) fun q' value _ _ _ ha => by
        injection ha with hq hv
        subst hq
        exact hok value (eq_of_heq hv)
    refine agreed_setCall (fun k' cache hk => (h.caches k' cache hk).mono hgrows)
      (fun id' k' c hc => (h.calls id' k' c hc).mono hgrows) hstore (fun pair hp => ?_) hd hcache
    rcases List.mem_append.mp hp with hp | hp
    · exact hgrows pair (h.issued pair hp)
    · exact hissued pair hp

theorem Reachable.agreed (h : Reachable s) : Agreed s := by
  induction h with
  | refl =>
    exact ⟨MemoryStore.holds_empty, fun _ hp => (List.not_mem_nil hp).elim,
      fun _ _ hk => (by cases hk), fun _ _ _ hc => (by cases hc)⟩
  | tail _ hn ih =>
    obtain ⟨e, he⟩ := hn
    exact (step?_eq_some_iff.mp he).agreed ih

/-! ## Answers -/

/-- A call has answered with a pair. -/
def Answered (s : Sharing) (pair : Pair) : Prop :=
  ∃ id k c, s.calls.get? id = some (k, c) ∧ c.phase = .finished (.ok (some pair))

theorem Agreed.knows_of_answered (h : Agreed s) {pair : Pair} (hp : s.Answered pair) :
    s.Knows pair := by
  obtain ⟨id, k, c, hc, hphase⟩ := hp
  exact ((h.calls id k c hc).found pair (by rw [hphase]; rfl)).1

/-- What a later state has kept of an earlier one: what was issued then is issued still, and a call
that has begun since has found nothing only for pairs that were not issued then. -/
structure Since (s t : Sharing) : Prop where
  knows : ∀ pair, s.Knows pair → t.Knows pair
  missed : ∀ id k c, s.calls.get? id = none → t.calls.get? id = some (k, c) →
    c.phase = .finished (.ok none) → ∀ pair, c.request.IsFor pair → ¬ s.Knows pair

theorem since_refl (s : Sharing) : Since s s := by
  refine ⟨fun _ h => h, fun id k c hn hc => ?_⟩
  rw [hn] at hc
  cases hc

/-- A call that makes a step has not ended. -/
theorem ne_finished_of_step {c d : Call} {cache cache' : Cache} {e : CallEvent}
    {result : Except Error (Option Pair)} (h : c.Step cache e d cache') :
    c.phase ≠ .finished result := by
  cases h with
  | hits _ _ h | starts _ h | follows _ _ _ _ _ h | ends _ _ _ _ h | concludes _ _ _ _ _ _ h
  | resumes _ _ _ h | cancels _ _ h | keepsFsid _ _ h | keepsPath _ _ h =>
    rw [h]
    intro hr
    cases hr

theorem Since.step (h : Since s t) (ht : Agreed t) (hstep : Step t e u) : Since s u := by
  refine ⟨fun pair hp => hstep.knows (h.knows pair hp), fun id k c hn hc hd pair hp => ?_⟩
  cases hstep with
  | opens => exact h.missed id k c hn hc hd pair hp
  | begins id' k' policy request =>
    rw [Dictionary.get?_insert] at hc
    split at hc
    · cases hc
      cases hd
    · exact h.missed id k c hn hc hd pair hp
  | moves id' k' c' d cache cache' e he hc' hk hstep =>
    rw [setCall, Dictionary.get?_insert] at hc
    split at hc
    · cases hc
      obtain ⟨error, now, draw, cancelled, ha, _⟩ :=
        hstep.missed (ht.calls _ _ _ hc') hd (ne_finished_of_step hstep)
      rw [ha] at he
      cases he
    · exact h.missed id k c hn hc hd pair hp
  | asks id' k' c' d cache cache' call q now draw cancelled hallowed hc' hk hstep =>
    rw [setCall, Dictionary.get?_insert] at hc
    split at hc
    · cases hc
      obtain ⟨error, _, _, _, ha, hnf⟩ :=
        hstep.missed (ht.calls _ _ _ hc') hd (ne_finished_of_step hstep)
      injection ha with hq hv
      subst hq
      rw [hstep.request_eq] at hp
      -- A pair that was issued then is issued now, when the store says that it is not.
      intro hs
      exact ht.not_knows_of_notFound hallowed (eq_of_heq hv) hnf
        (CacheRequest.isFor_opening.mpr hp) (h.knows pair hs)
    · exact h.missed id k c hn hc hd pair hp

theorem Steps.since (hs : Reachable s) (h : Steps s t) : Since s t := by
  induction h with
  | refl => exact since_refl s
  | tail hst hn ih =>
    obtain ⟨e, he⟩ := hn
    exact ih.step (Reachable.agreed (hs.trans hst)) (step?_eq_some_iff.mp he)

/-- **Caches that share a store agree**, whatever order the steps of their calls come in and
whichever questions fail.  The store issues each path and each fsid once; a call answers with a pair
that it was asked for; the pairs that any calls answer with are one to one; and a call that begins
when a pair was answered does not find nothing for it. -/
theorem allocations_agree (hs : Reachable s) (hst : Steps s t) :
    (t.issued.map Prod.snd).Nodup ∧ t.store.allocations = t.issued.length ∧
    (∀ id k c pair, t.calls.get? id = some (k, c) → c.phase = .finished (.ok (some pair)) →
      c.request.IsFor pair) ∧
    (∀ p q, t.Answered p → t.Answered q → (p.1 = q.1 ↔ p.2 = q.2)) ∧
    ∀ id k c, s.calls.get? id = none → t.calls.get? id = some (k, c) →
      c.phase = .finished (.ok none) → ∀ pair, c.request.IsFor pair → ¬ s.Answered pair := by
  have ht : Agreed t := Reachable.agreed (hs.trans hst)
  refine ⟨ht.store.nodup, ?_, fun id k c pair hc hp => ?_, fun p q hp hq => ?_,
    fun id k c hn hc hd pair hp ha => ?_⟩
  · rw [ht.store.allocations, List.length_map]
  · exact ((ht.calls id k c hc).found pair (by rw [hp]; rfl)).2
  · exact Numbered.fsid_eq_iff ht.store.nodup (ht.knows_of_answered hp) (ht.knows_of_answered hq)
  · exact (Steps.since hs hst).missed id k c hn hc hd pair hp
      ((Reachable.agreed hs).knows_of_answered ha)

/-- What a call that has ended without an error has found. -/
def found? (c : Call) : Option (Option Pair) :=
  match c.phase with
  | .finished (.ok pair) => some pair
  | _ => none

theorem phase_of_found? {c : Call} {pair : Option Pair} (h : found? c = some pair) :
    c.phase = .finished (.ok pair) := by
  unfold found? at h
  split at h
  · cases h
    assumption
  · cases h

/-- Two daemons allocate for one path.  The allocation of one takes effect and fails, so the other
one meets a conflict.  A lookup of another path begins when both have answered. -/
theorem allocations_agree_raced :
    ∃ s t : Sharing, s.Answered (.first, "/a") ∧ t.issued = [(.first, "/a")] ∧
      (t.issued.map Prod.snd).Nodup ∧
      ∃ k c, t.calls.get? 2 = some (k, c) ∧ c.phase = .finished (.ok none) ∧
        ∀ pair, c.request.IsFor pair → ¬ s.Answered pair := by
  let before : List SharingEvent :=
    [.opens 0 true, .opens 1 false, .begins 0 0 {} (.fsidOrAllocate "/a"),
      .begins 1 1 {} (.allocate "/a"), .moves 0 (.looks 0), .moves 1 (.looks 0),
      .asks 0 .answers 0 0 false, .asks 1 (.failsAfter (.unavailable "")) 0 0 false,
      .asks 0 .answers 0 0 false, .moves 0 (.timerFires 0), .asks 0 .answers 0 0 false,
      .moves 0 .keeps, .moves 1 (.timerFires 0), .asks 1 .answers 0 0 false,
      .asks 1 .answers 0 0 false, .moves 0 .keeps, .moves 1 .keeps, .moves 1 .keeps]
  let after : List SharingEvent :=
    [.begins 2 0 {} (.fsidOf "/b"), .moves 2 (.looks 0), .asks 2 .answers 0 0 false]
  have hrun : (Sharing.steps? {} before).any (fun s =>
      (s.calls.get? 0).any (fun x => decide (found? x.2 = some (some (.first, "/a")))) &&
      (s.calls.get? 2).isNone &&
      (s.steps? after).any fun t => decide (t.issued = [(.first, "/a")]) &&
        (t.calls.get? 2).any fun x => decide (found? x.2 = some none)) = true := by
    decide +kernel
  simp only [Option.any_eq_true, Bool.and_eq_true, decide_eq_true_eq,
    Option.isNone_iff_eq_none] at hrun
  obtain ⟨s, hs, ⟨⟨⟨k, c⟩, hc, hfound⟩, hnew⟩, t, ht, hissued, ⟨k', c'⟩, hc', hfound'⟩ := hrun
  have hmissed : c'.phase = .finished (.ok none) := phase_of_found? hfound'
  have hanswered : s.Answered (.first, "/a") := ⟨0, k, c, hc, phase_of_found? hfound⟩
  have h := allocations_agree (steps_of_steps? hs) (steps_of_steps? ht)
  exact ⟨s, t, hanswered, hissued, h.1, k', c', hc', hmissed,
    h.2.2.2.2 2 k' c' hnew hc' hmissed⟩

end Sharing

end FsidRegistry

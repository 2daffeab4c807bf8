import FsidRegistry.Proofs.Cache.Agreement
import FsidRegistry.Proofs.Cache.Stages
import FsidRegistry.Proofs.Cache.Transparency

/-!
# Races for a path

Any number of calls run under the default policy on caches that share a memory store, and others
allocate paths on the store directly.  Everything happens one step at a time and in any order: time
passes, requests are cancelled, a call looks into its cache, asks the store one question, waits or
keeps half a pair.

* `Race.step?`: the steps.
* `Race.Does`, `Race.does_of_step?`: what a call does, as far as its stage is concerned.
* `Race.InOrder`, `Race.InOrder.next`: every call is at some stage, and has not done more than its
  stage allows.
* `Race.FailedBy`: a call that has failed has failed at some point of the run, and how.
* `Race.lost_race_costs_one_retry`: the calls, over all runs.
-/

namespace FsidRegistry

/-- Caches over one store, on a clock, beside the tokens of the requests. -/
structure Race where
  now : Instant
  /-- The calls whose requests are cancelled. -/
  cancelled : List Nat := []
  shared : Sharing := {}

/-- What happens in a step. -/
inductive RaceEvent
  | timePasses (nanos : Nat)
  | cancels (id : Nat)
  /-- A cache is set up. -/
  | opens (cache : Nat) (enabled : Bool)
  | begins (id cache : Nat) (request : CacheRequest)
  /-- Somebody allocates a path on the store directly. -/
  | peerAllocates (path : String)
  /-- A call does something. -/
  | does (id : Nat) (act : Call.Act)

/-- The event is something that a call does. -/
def RaceEvent.isBy (id : Nat) : RaceEvent → Bool
  | .does id' _ => id' == id
  | _ => false

namespace Race

/-- The paths that the store has issued fsids to, oldest first. -/
def paths (s : Race) : List String := s.shared.issued.map Prod.snd

/-- What a call does, as a step of the caches.  It sees its token only if that is set. -/
def act? (s : Race) (id : Nat) : Call.Act → Option SharingEvent
  | .looks => some (.moves id (.looks s.now))
  | .asks draw => some (.asks id .answers s.now draw (s.cancelled.contains id))
  | .wakes => some (.moves id (.timerFires s.now))
  | .seesCancellation =>
    if s.cancelled.contains id then some (.moves id .cancellationSeen) else none
  | .keeps => some (.moves id .keeps)

/-- The caches after a step, if it can be made. -/
def step? (s : Race) : RaceEvent → Option Race
  | .timePasses nanos => some { s with now := s.now + nanos }
  | .cancels id => some { s with cancelled := id :: s.cancelled }
  | .opens k enabled => (s.shared.step? (.opens k enabled)).map fun x => { s with shared := x }
  | .begins id k request =>
    if s.shared.caches.contains k then
      (s.shared.step? (.begins id k {} request)).map fun x => { s with shared := x }
    else none
  | .peerAllocates path =>
    some { s with shared := { s.shared with
      store := (s.shared.store.allocate path).2
      issued := s.shared.issued ++ s.shared.store.newlyIssued (.allocate path) } }
  | .does id act => ((s.act? id act).bind s.shared.step?).map fun x => { s with shared := x }

/-- The caches after a list of steps, if they can be made in that order. -/
def steps? (s : Race) : List RaceEvent → Option Race
  | [] => some s
  | e :: es => (s.step? e).bind (·.steps? es)

/-- What can come of a new store after a list of events. -/
inductive After (start : Instant) : List RaceEvent → Race → Prop
  | first : After start [] { now := start }
  | next {es : List RaceEvent} {s t : Race} {e : RaceEvent} (h : After start es s)
      (hs : s.step? e = some t) : After start (es ++ [e]) t

variable {s t : Race} {start : Instant} {es : List RaceEvent} {e : RaceEvent} {id k : Nat}
  {c d : Call} {act : Call.Act}

theorem After.steps (h : After start es s) {more : List RaceEvent} (hs : s.steps? more = some t) :
    After start (es ++ more) t := by
  induction more generalizing s es with
  | nil =>
    cases hs
    rw [List.append_nil]
    exact h
  | cons e more ih =>
    obtain ⟨u, hu, hs⟩ := Option.bind_eq_some_iff.mp hs
    rw [List.append_cons]
    exact ih (h.next hu) hs

/-! ## What calls do -/

/-- The store takes back nothing by a question, and holds what it has issued by then. -/
theorem holds_asked (hm : s.shared.store.Holds s.paths) (q : Query) :
    (MemoryStore.source.ask q s.shared.store).2.Holds
        ((s.shared.issued ++ s.shared.store.newlyIssued q).map Prod.snd) ∧
      ∀ path ∈ s.paths, path ∈ (s.shared.issued ++ s.shared.store.newlyIssued q).map Prod.snd := by
  obtain ⟨after, hasked⟩ := hm.asked q
  have hafter : (s.shared.issued ++ s.shared.store.newlyIssued q).map Prod.snd = after := by
    rw [List.map_append]
    exact hasked.grows.symm
  rw [hafter]
  refine ⟨hasked.holds, fun path hp => ?_⟩
  rw [hasked.grows]
  exact List.mem_append_left _ hp

/-- A call does something: it advances, and nobody else is set back. -/
structure Does (s : Race) (id k : Nat) (c : Call) (act : Call.Act) (d : Call) (t : Race) : Prop where
  before : s.shared.calls.get? id = some (k, c)
  after : t.shared.calls = s.shared.calls.insert id (k, d)
  caches : ∃ cache, t.shared.caches = s.shared.caches.insert k cache
  now_eq : t.now = s.now
  request_eq : d.request = c.request
  store : t.shared.store.Holds t.paths
  grows : ∀ path ∈ s.paths, path ∈ t.paths
  advances : ∀ n, c.Stage s.paths s.now n →
    Call.Advances s.paths s.now n
      (c.Fails s.paths s.now (s.cancelled.contains id) act) d

/-- A step of a call that asks nothing. -/
theorem does_of_moves (hm : s.shared.store.Holds s.paths) {e : CallEvent} {shared : Sharing}
    (h : s.shared.step? (.moves id e) = some shared)
    (hadvances : ∀ (c d : Call) cache cache' n, c.Step cache e d cache' → c.Stage s.paths s.now n →
      Call.Advances s.paths s.now n (c.Fails s.paths s.now (s.cancelled.contains id) act) d) :
    ∃ k c d, s.Does id k c act d { s with shared := shared } := by
  cases Sharing.step?_eq_some_iff.mp h with
  | moves _ k c d cache cache' _ he hc hk hs =>
    exact ⟨k, c, d, hc, rfl, ⟨cache', rfl⟩, rfl, hs.request_eq, hm, fun _ hp => hp,
      fun n hn => hadvances c d cache cache' n hs hn⟩

theorem does_of_asks (hm : s.shared.store.Holds s.paths) {draw : Nat} {shared : Sharing}
    (h : s.shared.step? (.asks id .answers s.now draw (s.cancelled.contains id)) = some shared) :
    ∃ k c d, s.Does id k c (.asks draw) d { s with shared := shared } := by
  cases Sharing.step?_eq_some_iff.mp h with
  | asks _ k c d cache cache' _ q _ _ _ ha hc hk hs =>
    obtain ⟨hstore, hgrows⟩ := holds_asked hm q
    exact ⟨k, c, d, hc, rfl, ⟨cache', rfl⟩, rfl, hs.request_eq, hstore, hgrows,
      fun n hn => hn.asks hm rfl hs⟩

theorem does_of_step? (hm : s.shared.store.Holds s.paths) (h : s.step? (.does id act) = some t) :
    ∃ k c d, s.Does id k c act d t := by
  rw [step?] at h
  obtain ⟨shared, hshared, rfl⟩ := Option.map_eq_some_iff.mp h
  obtain ⟨e, he, hstep⟩ := Option.bind_eq_some_iff.mp hshared
  cases act with
  | looks =>
    cases he
    exact does_of_moves hm hstep fun c d cache cache' n hs hn => hn.looks hs
  | asks draw =>
    cases he
    exact does_of_asks hm hstep
  | wakes =>
    cases he
    exact does_of_moves hm hstep fun c d cache cache' n hs hn => hn.wakes hs
  | seesCancellation =>
    rw [act?] at he
    split at he
    · rename_i hset
      cases he
      refine does_of_moves hm hstep fun c d cache cache' n hs hn => ?_
      rw [hset]
      exact hn.sees hs
    · cases he
  | keeps =>
    cases he
    exact does_of_moves hm hstep fun c d cache cache' n hs hn => hn.keeps hs

/-! ## All calls -/

/-- The store holds what it has issued, and every call is at a stage and has not done more than its
stage allows. -/
structure InOrder (es : List RaceEvent) (s : Race) : Prop where
  store : s.shared.store.Holds s.paths
  caches : ∀ id k c, s.shared.calls.get? id = some (k, c) → ∃ cache, s.shared.caches.get? k = some cache
  stages : ∀ id k c, s.shared.calls.get? id = some (k, c) →
    ∃ n, c.Stage s.paths s.now n ∧ es.countP (RaceEvent.isBy id) ≤ n
  fresh : ∀ id, s.shared.calls.get? id = none → es.countP (RaceEvent.isBy id) = 0

/-- What others do is not counted for a call. -/
theorem countP_isBy_append (es : List RaceEvent) (h : e.isBy id = false) :
    (es ++ [e]).countP (RaceEvent.isBy id) = es.countP (RaceEvent.isBy id) := by
  rw [List.countP_append, List.countP_singleton, h]
  rfl

/-- A step in which no call does anything and none begins. -/
theorem InOrder.unmoved (h : InOrder es s) (hby : ∀ id, e.isBy id = false)
    (hcalls : t.shared.calls = s.shared.calls)
    (hcaches : ∀ k cache, s.shared.caches.get? k = some cache →
      ∃ cache', t.shared.caches.get? k = some cache')
    (hnow : s.now ≤ t.now) (hgrows : ∀ path ∈ s.paths, path ∈ t.paths)
    (hstore : t.shared.store.Holds t.paths) : InOrder (es ++ [e]) t := by
  refine ⟨hstore, ?_, ?_, ?_⟩
  · intro id k c hc
    rw [hcalls] at hc
    obtain ⟨cache, hk⟩ := h.caches id k c hc
    exact hcaches k cache hk
  · intro id k c hc
    rw [hcalls] at hc
    obtain ⟨n, hstage, hn⟩ := h.stages id k c hc
    exact ⟨n, hstage.mono hgrows hnow, by rwa [countP_isBy_append es (hby id)]⟩
  · intro id hc
    rw [hcalls] at hc
    rw [countP_isBy_append es (hby id)]
    exact h.fresh id hc

theorem InOrder.begins (h : InOrder es s) {request : CacheRequest} {cache : Cache}
    (hk : s.shared.caches.get? k = some cache) (hid : s.shared.calls.get? id = none) :
    InOrder (es ++ [.begins id k request]) { s with shared := { s.shared with
      calls := s.shared.calls.insert id (k, .begin {} request) } } := by
  have hcount : ∀ id', (es ++ [RaceEvent.begins id k request]).countP (RaceEvent.isBy id') =
      es.countP (RaceEvent.isBy id') := fun _ => countP_isBy_append es rfl
  refine ⟨h.store, ?_, ?_, ?_⟩
  · intro id' k' c hc
    rw [Dictionary.get?_insert] at hc
    split at hc
    · cases hc
      exact ⟨cache, hk⟩
    · exact h.caches id' k' c hc
  · intro id' k' c hc
    rw [Dictionary.get?_insert] at hc
    rw [hcount]
    split at hc
    · rename_i hid'
      cases hc
      subst hid'
      exact ⟨0, Call.stage_begin request, Nat.le_of_eq (h.fresh id hid)⟩
    · exact h.stages id' k' c hc
  · intro id' hc
    rw [Dictionary.get?_insert] at hc
    rw [hcount]
    split at hc
    · cases hc
    · exact h.fresh id' hc

theorem InOrder.does (h : InOrder es s) (hd : s.Does id k c act d t) :
    InOrder (es ++ [.does id act]) t := by
  obtain ⟨cache, hcaches⟩ := hd.caches
  have hnow : s.now ≤ t.now := Nat.le_of_eq hd.now_eq.symm
  have hcount : ∀ id', (es ++ [RaceEvent.does id act]).countP (RaceEvent.isBy id') =
      es.countP (RaceEvent.isBy id') + if id = id' then 1 else 0 := by
    intro id'
    rw [List.countP_append, List.countP_singleton]
    simp [RaceEvent.isBy]
  refine ⟨hd.store, ?_, ?_, ?_⟩
  · intro id' k' c' hc
    rw [hd.after, Dictionary.get?_insert] at hc
    rw [hcaches]
    split at hc
    · cases hc
      exact ⟨cache, by rw [Dictionary.get?_insert, if_pos rfl]⟩
    · obtain ⟨cache', hk⟩ := h.caches id' k' c' hc
      exact Dictionary.exists_get?_of_insert hk k cache
  · intro id' k' c' hc
    rw [hd.after, Dictionary.get?_insert] at hc
    rw [hcount]
    split at hc
    · rename_i hid
      cases hc
      subst hid
      obtain ⟨n, hstage, hn⟩ := h.stages id k c hd.before
      obtain ⟨⟨n', hlt, hstage'⟩, -⟩ := hd.advances n hstage
      refine ⟨n', hstage'.mono hd.grows hnow, ?_⟩
      rw [if_pos rfl]
      omega
    · rename_i hid
      obtain ⟨n, hstage, hn⟩ := h.stages id' k' c' hc
      refine ⟨n, hstage.mono hd.grows hnow, ?_⟩
      rw [if_neg hid]
      exact hn
  · intro id' hc
    rw [hd.after, Dictionary.get?_insert] at hc
    rw [hcount]
    split at hc
    · cases hc
    · rename_i hid
      rw [if_neg hid]
      exact h.fresh id' hc

/-- **Every step keeps the calls in order.** -/
theorem InOrder.next (h : InOrder es s) (hs : s.step? e = some t) : InOrder (es ++ [e]) t := by
  cases e with
  | timePasses nanos =>
    cases hs
    exact h.unmoved (fun _ => rfl) rfl (fun _ cache hk => ⟨cache, hk⟩) (Nat.le_add_right _ _)
      (fun _ hp => hp) h.store
  | cancels id =>
    cases hs
    exact h.unmoved (fun _ => rfl) rfl (fun _ cache hk => ⟨cache, hk⟩) (Nat.le_refl _)
      (fun _ hp => hp) h.store
  | opens k enabled =>
    obtain ⟨shared, hshared, rfl⟩ := Option.map_eq_some_iff.mp hs
    cases Sharing.step?_eq_some_iff.mp hshared with
    | opens _ _ hnone =>
      exact h.unmoved (fun _ => rfl) rfl
        (fun k' cache hk => Dictionary.exists_get?_of_insert hk k _) (Nat.le_refl _)
        (fun _ hp => hp) h.store
  | begins id k request =>
    rw [step?] at hs
    split at hs
    · rename_i hk
      obtain ⟨cache, hk⟩ := Option.isSome_iff_exists.mp hk
      obtain ⟨shared, hshared, rfl⟩ := Option.map_eq_some_iff.mp hs
      cases Sharing.step?_eq_some_iff.mp hshared with
      | begins _ _ _ _ hnone => exact h.begins hk hnone
    · cases hs
  | peerAllocates path =>
    cases hs
    obtain ⟨hstore, hgrows⟩ := holds_asked h.store (.allocate path)
    exact h.unmoved (fun _ => rfl) rfl (fun _ cache hk => ⟨cache, hk⟩) (Nat.le_refl _) hgrows hstore
  | does id act =>
    obtain ⟨k, c, d, hd⟩ := does_of_step? h.store hs
    exact h.does hd

theorem After.inOrder (h : After start es s) : InOrder es s := by
  induction h with
  | first =>
    exact ⟨MemoryStore.holds_empty, fun _ _ _ hc => (by cases hc), fun _ _ _ hc => (by cases hc),
      fun _ _ => rfl⟩
  | next _ hs ih => exact ih.next hs

/-! ## Failures -/

/-- At some point of a run from a new store, the call `id` was about to fail, and did. -/
def FailedBy (start : Instant) (es : List RaceEvent) (id : Nat) (request : CacheRequest)
    (error : Error) : Prop :=
  ∃ before act rest s k c, es = before ++ RaceEvent.does id act :: rest ∧ After start before s ∧
    s.shared.calls.get? id = some (k, c) ∧ c.request = request ∧
    c.Fails s.paths s.now (s.cancelled.contains id) act error

theorem FailedBy.append {request : CacheRequest} {error : Error}
    (h : FailedBy start es id request error) (e : RaceEvent) :
    FailedBy start (es ++ [e]) id request error := by
  obtain ⟨before, act, rest, s, k, c, rfl, hafter⟩ := h
  exact ⟨before, act, rest ++ [e], s, k, c, by simp, hafter⟩

/-- A call is as it was before a step, or has just begun, or has done something in the step. -/
theorem call_of_step? (hm : s.shared.store.Holds s.paths) (hs : s.step? e = some t)
    (hc : t.shared.calls.get? id = some (k, c)) :
    s.shared.calls.get? id = some (k, c) ∨ c.phase = .looking ∨
      ∃ act b, e = .does id act ∧ s.Does id k b act c t := by
  cases e with
  | timePasses | cancels | peerAllocates => cases hs; exact Or.inl hc
  | opens k' enabled =>
    obtain ⟨shared, hshared, rfl⟩ := Option.map_eq_some_iff.mp hs
    cases Sharing.step?_eq_some_iff.mp hshared
    exact Or.inl hc
  | begins id' k' request =>
    rw [step?] at hs
    split at hs
    · obtain ⟨shared, hshared, rfl⟩ := Option.map_eq_some_iff.mp hs
      cases Sharing.step?_eq_some_iff.mp hshared
      rw [Dictionary.get?_insert] at hc
      split at hc
      · cases hc
        exact Or.inr (Or.inl rfl)
      · exact Or.inl hc
    · cases hs
  | does id' act =>
    obtain ⟨k', b, d, hd⟩ := does_of_step? hm hs
    have hc' := hc
    rw [hd.after, Dictionary.get?_insert] at hc'
    split at hc'
    · rename_i hid
      cases hc'
      subst hid
      exact Or.inr (Or.inr ⟨act, b, rfl, hd⟩)
    · exact Or.inl hc'

theorem After.failedBy (h : After start es s) (hc : s.shared.calls.get? id = some (k, c))
    {error : Error} (hp : c.phase = .finished (.error error)) :
    FailedBy start es id c.request error := by
  induction h generalizing k c with
  | first => cases hc
  | @next es s t e hafter hs ih =>
    have horder := hafter.inOrder
    rcases call_of_step? horder.store hs hc with hold | hnew | ⟨act, b, rfl, hd⟩
    · exact (ih hold hp).append e
    · rw [hnew] at hp
      cases hp
    · obtain ⟨n, hstage, -⟩ := horder.stages id k b hd.before
      exact ⟨es, act, [], s, k, b, rfl, hafter, hd.before, hd.request_eq.symm,
        (hd.advances n hstage).failed error hp⟩

/-! ## Progress -/

/-- A step of a call that asks nothing can be made. -/
theorem exists_does (act : Call.Act) {cache cache' : Cache} {e : CallEvent}
    (hc : s.shared.calls.get? id = some (k, c)) (hk : s.shared.caches.get? k = some cache)
    (ha : s.act? id act = some (.moves id e)) (he : e.isAnswer = false)
    (hs : c.Step cache e d cache') : ∃ t, s.step? (.does id act) = some t := by
  have hstep := Sharing.step?_eq_some_iff.mpr (.moves id k c d cache cache' e he hc hk hs)
  exact ⟨_, by rw [step?, ha, Option.bind_some, hstep, Option.map_some]⟩

theorem exists_asks {cache : Cache} {q : Query} (hc : s.shared.calls.get? id = some (k, c))
    (hk : s.shared.caches.get? k = some cache) (hq : c.pending? = some q) :
    ∃ t, s.step? (.does id (.asks 0)) = some t := by
  obtain ⟨d, hs⟩ := Call.exists_answered hq cache (StoreCall.answers.ask s.shared.store q).1 s.now 0
    (s.cancelled.contains id)
  have hstep := Sharing.step?_eq_some_iff.mpr (.asks id k c d cache cache .answers q s.now 0
    (s.cancelled.contains id) rfl hc hk hs)
  exact ⟨_, by rw [step?, act?, Option.bind_some, hstep, Option.map_some]⟩

/-- A call that is not over can do something, once time has passed. -/
theorem InOrder.isOver_or_does (h : InOrder es s) (hc : s.shared.calls.get? id = some (k, c)) :
    c.phase.IsOver ∨ ∃ nanos act t u, s.step? (.timePasses nanos) = some t ∧
      t.step? (.does id act) = some u := by
  obtain ⟨cache, hk⟩ := h.caches id k c hc
  obtain ⟨n, hstage, -⟩ := h.stages id k c hc
  cases hp : c.phase with
  | finished | faulted => exact Or.inl trivial
  | looking =>
    refine Or.inr ⟨0, .looks, s, ?_⟩
    cases hcached : c.request.cached? cache with
    | some pair =>
      obtain ⟨t, ht⟩ := exists_does .looks hc hk rfl rfl (.hits s.now pair hp hcached)
      exact ⟨t, rfl, ht⟩
    | none =>
      obtain ⟨t, ht⟩ := exists_does .looks hc hk rfl rfl (.starts s.now hp hcached)
      exact ⟨t, rfl, ht⟩
  | opening =>
    obtain ⟨t, ht⟩ := exists_asks hc hk (by rw [Call.pending?, hp])
    exact Or.inr ⟨0, .asks 0, s, t, rfl, ht⟩
  | following first q =>
    obtain ⟨t, ht⟩ := exists_asks hc hk (by rw [Call.pending?, hp])
    exact Or.inr ⟨0, .asks 0, s, t, rfl, ht⟩
  | keepingFsid pair =>
    obtain ⟨t, ht⟩ := exists_does .keeps hc hk rfl rfl (.keepsFsid pair.1 pair.2 hp)
    exact Or.inr ⟨0, .keeps, s, t, rfl, ht⟩
  | keepingPath pair =>
    obtain ⟨t, ht⟩ := exists_does .keeps hc hk rfl rfl (.keepsPath pair.1 pair.2 hp)
    exact Or.inr ⟨0, .keeps, s, t, rfl, ht⟩
  | pausing wake =>
    let t : Race := { s with now := s.now + (wake - s.now) }
    have hwake : wake ≤ t.now := Nat.sub_le_iff_le_add'.mp (Nat.le_refl _)
    obtain ⟨path, run, -, hr, -⟩ := hstage.of_pausing hp
    obtain ⟨u, hu⟩ : ∃ u, t.step? (.does id .wakes) = some u :=
      exists_does .wakes hc hk rfl rfl (.resumes wake t.now run hp hr hwake)
    exact Or.inr ⟨wake - s.now, .wakes, t, u, rfl, hu⟩

/-! ## Lost races -/

/-- **A lost race costs one retry**, whatever order things happen in: a call that looks a path up and
allocates it makes at most two attempts, and any other call one.  A call that is not over can go on,
and is over after seven steps of its own, too few for its count of attempts to start again; it faults
only if the clock ends within the time allowed.  If it fails, then at some point the store was asked to
allocate and had issued every fsid there is; or it had lost a race, and its one pause would have reached
the deadline or its request was cancelled, which happens only to a call that looks a path up and
allocates it. -/
theorem lost_race_costs_one_retry (h : After start es s)
    (hc : s.shared.calls.get? id = some (k, c)) :
    c.attempts.toNat ≤ c.request.mostAttempts ∧ es.countP (RaceEvent.isBy id) ≤ 7 ∧
    (c.phase.IsOver ∨ ∃ nanos act t u, s.step? (.timePasses nanos) = some t ∧
      t.step? (.does id act) = some u) ∧
    (∀ fault, c.phase = .faulted fault → ClockEnds s.now) ∧
    ∀ error, c.phase = .finished (.error error) →
      ∃ before act rest s' k' c', es = before ++ RaceEvent.does id act :: rest ∧
        After start before s' ∧ s'.shared.calls.get? id = some (k', c') ∧ c'.request = c.request ∧
        c'.Fails s'.paths s'.now (s'.cancelled.contains id) act error ∧
        ((∀ path, c.request ≠ .fsidOrAllocate path) → s'.paths.length = issuable) := by
  have horder := h.inOrder
  obtain ⟨n, hstage, hn⟩ := horder.stages id k c hc
  refine ⟨hstage.attempts_le, Nat.le_trans hn hstage.le_seven, horder.isOver_or_does hc,
    fun _ hp => hstage.clockEnds hp, fun error hp => ?_⟩
  obtain ⟨before, act, rest, s', k', c', hes, hafter, hc', hrequest, hfails⟩ := h.failedBy hc hp
  refine ⟨before, act, rest, s', k', c', hes, hafter, hc', hrequest, hfails, fun hother => ?_⟩
  rw [← hrequest] at hother
  cases hfails with
  | exhausted _ _ _ _ hfull => exact hfull
  | runsOut path _ _ hl => exact absurd hl.request_eq (hother path)
  | isCancelled path _ _ hl => exact absurd hl.request_eq (hother path)
  | isInterrupted path _ _ hq => exact absurd hq (hother path)

/-- Somebody allocates a path between the lookup and the allocation of a call: its second attempt finds
what they have allocated. -/
theorem lost_race_costs_one_retry_found :
    ∃ es s k c, After 0 es s ∧ s.shared.calls.get? 0 = some (k, c) ∧
      c.phase = .finished (.ok (some (.first, "/a"))) ∧ 1 < c.attempts.toNat ∧
      c.attempts.toNat ≤ c.request.mostAttempts ∧ es.countP (RaceEvent.isBy 0) ≤ 7 := by
  let es : List RaceEvent :=
    [.opens 0 true, .begins 0 0 (.fsidOrAllocate "/a"), .does 0 .looks, .does 0 (.asks 0),
      .peerAllocates "/a", .does 0 (.asks 5), .timePasses 5, .does 0 .wakes, .does 0 (.asks 0),
      .does 0 .keeps, .does 0 .keeps]
  have hrun : (steps? { now := 0 } es).any (fun s => (s.shared.calls.get? 0).any fun x =>
      decide (Sharing.found? x.2 = some (some (.first, "/a"))) && decide (1 < x.2.attempts.toNat)) =
        true := by
    decide +kernel
  simp only [Option.any_eq_true, Bool.and_eq_true, decide_eq_true_eq] at hrun
  obtain ⟨s, hs, ⟨k, c⟩, hc, hfound, hattempts⟩ := hrun
  have hafter : After 0 es s := After.first.steps hs
  obtain ⟨hmost, hcount, -⟩ := lost_race_costs_one_retry hafter hc
  exact ⟨es, s, k, c, hafter, hc, Sharing.phase_of_found? hfound, hattempts, hmost, hcount⟩

end Race

end FsidRegistry

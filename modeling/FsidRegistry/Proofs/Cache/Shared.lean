import FsidRegistry.Proofs.Cache.Agreement
import FsidRegistry.Proofs.Cache.Worker

/-!
# Workers that share a memory store

Any number of workers carry calls of the cache over one memory store, one step at a time and in any
order.  Nobody disturbs their questions, but they come in each other's way: a path that one of them is
about to allocate may meanwhile have been allocated by another.

* `StoreError.Plain`: the only errors of a memory store.
* `Call.Plain`, `Call.Step.plain`: a call over a memory store fails by one of them, or is cancelled.
* `Worker.Does`, `Worker.does_of_step?`: all that a step of a worker can do.
* `Worker.Sound`, `Worker.Does.sound`: a step keeps what the worker knows in line with the list of
  paths, which grows at most by the path that the worker has asked for.
-/

namespace FsidRegistry

variable {good : String → Prop}

/-! ## Errors -/

/-- The errors of a memory store that is asked about good paths. -/
inductive StoreError.Plain (good : String → Prop) : StoreError → Prop
  | notFound : Plain good .notFound
  | conflict (path : String) (h : good path) : Plain good (.conflict path)
  | exhausted : Plain good (.other "fsid space exhausted")

/-- The question names no path but a good one. -/
def Query.About (good : String → Prop) : Query → Prop
  | .fsidOf path | .allocate path => good path
  | .pathOf _ => True

/-- The request names no path but a good one. -/
def CacheRequest.About (good : String → Prop) : CacheRequest → Prop
  | .fsidOf path | .allocate path | .fsidOrAllocate path => good path
  | .pathOf _ => True

theorem MemoryStore.plain_of_ask {m : MemoryStore} {q : Query} {e : StoreError}
    (hq : q.About good) (he : (source.ask q m).1 = .error e) : e.Plain good := by
  cases q with
  | fsidOf path =>
    have he : m.fsidOf path = .error e := he
    unfold fsidOf at he
    split at he <;> cases he
    exact .notFound
  | pathOf fsid =>
    have he : m.pathOf fsid = .error e := he
    unfold pathOf at he
    split at he <;> cases he
    exact .notFound
  | allocate path =>
    have he : (m.allocate path).1 = .error e := he
    unfold allocate at he
    split at he
    · cases he
      exact .conflict path hq
    · split at he <;> cases he
      exact .exhausted

theorem CacheRequest.About.opening {request : CacheRequest} (h : request.About good) :
    request.opening.About good := by
  cases request <;> exact h

theorem CacheRequest.About.followUp {request : CacheRequest} {e : StoreError} {next : Query}
    (h : request.About good) (hf : request.followUp? e = some next) : next.About good := by
  cases request with
  | allocate path | fsidOrAllocate path =>
    rw [followUp?] at hf
    split at hf <;> cases hf
    exact h
  | fsidOf | pathOf => cases hf

/-- A failed second question ends an attempt with one of the two errors. -/
theorem CacheRequest.conclude_eq_error {request : CacheRequest} {first e : StoreError}
    {answer : Except StoreError Pair} (h : request.conclude first answer = .error e) :
    e = first ∨ answer = .error e := by
  cases request with
  | allocate path =>
    cases answer with
    | ok pair => cases h
    | error e' =>
      rw [conclude] at h
      split at h <;> cases h
      · exact .inl rfl
      · exact .inr rfl
  | _ => exact .inr h

namespace Call

variable {c d : Call} {cache cache' : Cache} {e : CallEvent}

/-- A call is about good paths, and fails as calls over a memory store do. -/
structure Plain (good : String → Prop) (c : Call) : Prop where
  about : c.request.About good
  started : ∀ q, c.pending? = some q → ∃ run, c.run = some run
  second : ∀ first query, c.phase = .following first query →
    first.Plain good ∧ query.About good
  failed : ∀ error, c.phase = .finished (.error error) →
    error = .cancelled ∨ ∃ e, error = .store e ∧ e.Plain good

/-- What the source is asked is about good paths. -/
theorem Plain.pending (h : c.Plain good) {q : Query} (hq : c.pending? = some q) : q.About good := by
  unfold pending? at hq
  split at hq
  · cases hq
    exact h.about.opening
  · rename_i first query hp
    cases hq
    exact (h.second first q hp).2
  · cases hq

/-- A call that has not failed and asks no second question. -/
theorem plain_of_phase (h : c.request.About good) (hrun : ∃ run, c.run = some run)
    (hf : ∀ first query, c.phase ≠ .following first query)
    (he : ∀ error, c.phase ≠ .finished (.error error)) : c.Plain good :=
  ⟨h, fun _ _ => hrun, fun _ _ hp => absurd hp (hf _ _), fun _ hp => absurd hp (he _)⟩

/-- A call that asks nothing and has not failed. -/
theorem plain_of_none (h : c.request.About good) (hq : c.pending? = none)
    (he : ∀ error, c.phase ≠ .finished (.error error)) : c.Plain good := by
  refine ⟨h, fun q hp => ?_, fun first query hp => ?_, fun _ hp => absurd hp (he _)⟩
  · rw [hq] at hp
    cases hp
  · rw [pending?, hp] at hq
    cases hq

theorem plain_begin (policy : Retry.Policy) {request : CacheRequest} (h : request.About good) :
    (begin policy request).Plain good := plain_of_none h rfl (by rintro _ ⟨⟩)

/-- An attempt that ended ends the call with one of its own errors, or not at all. -/
theorem Plain.attemptEnded (h : c.Plain good) {outcome : Except StoreError Pair}
    (ho : ∀ e, outcome = .error e → e.Plain good) (now : Instant) (draw : Nat) (cancelled : Bool) :
    (c.attemptEnded outcome now draw cancelled).Plain good := by
  rcases attemptEnded_cases c outcome now draw cancelled with he | ⟨hr, ha⟩
  · rw [he]
    exact h
  · generalize c.attemptEnded outcome now draw cancelled = d at hr ha
    obtain ⟨request, policy, run, phase⟩ := d
    dsimp only at hr ha
    subst hr
    cases ha with
    | resolved pair => exact plain_of_none h.about rfl (by rintro _ ⟨⟩)
    | cancelled e =>
      refine ⟨h.about, by rintro _ ⟨⟩, by rintro _ _ ⟨⟩, fun error hp => ?_⟩
      cases hp
      exact .inl rfl
    | pauses e wake => exact plain_of_none h.about rfl (by rintro _ ⟨⟩)
    | faults e fault => exact plain_of_none h.about rfl (by rintro _ ⟨⟩)
    | fails e =>
      refine ⟨h.about, by rintro _ ⟨⟩, by rintro _ _ ⟨⟩, fun error hp => ?_⟩
      injection hp with hp
      rw [CacheRequest.settle] at hp
      split at hp <;> cases hp
      exact .inr ⟨e, rfl, ho e rfl⟩

/-- **A call over a store with plain errors fails with a plain error, or is cancelled.** -/
theorem Step.plain (hstep : Step c cache e d cache') (h : c.Plain good)
    (ha : ∀ query error now draw cancelled, e = .answered query (.error error) now draw cancelled →
      query.About good → error.Plain good) : d.Plain good := by
  cases hstep with
  | hits now pair => exact plain_of_none h.about rfl (by rintro _ ⟨⟩)
  | starts now =>
    unfold withRun Retry.Run.start
    cases now.after c.policy.deadline with
    | ok deadline => exact plain_of_phase h.about ⟨_, rfl⟩ (by rintro _ _ ⟨⟩) (by rintro _ ⟨⟩)
    | error fault => exact plain_of_none h.about rfl (by rintro _ ⟨⟩)
  | follows e next now draw cancelled hp hf =>
    have hrun := h.started c.request.opening (by rw [pending?, hp])
    refine ⟨h.about, fun _ _ => hrun, fun first query hq => ?_, by rintro _ ⟨⟩⟩
    cases hq
    exact ⟨ha _ e now draw cancelled rfl h.about.opening, h.about.followUp hf⟩
  | ends answer now draw cancelled hp hf =>
    refine h.attemptEnded (fun e he => ?_) now draw cancelled
    cases answer with
    | ok value => cases he
    | error e' =>
      cases he
      exact ha _ e now draw cancelled rfl h.about.opening
  | concludes first query answer now draw cancelled hp =>
    obtain ⟨hfirst, hquery⟩ := h.second first query hp
    refine h.attemptEnded (fun e he => ?_) now draw cancelled
    obtain rfl | he := CacheRequest.conclude_eq_error he
    · exact hfirst
    · cases answer with
      | ok value => cases he
      | error e' =>
        cases he
        exact ha query e now draw cancelled rfl hquery
  | resumes wake now run => exact plain_of_phase h.about ⟨_, rfl⟩ (by rintro _ _ ⟨⟩) (by rintro _ ⟨⟩)
  | cancels wake run =>
    refine ⟨h.about, by rintro _ ⟨⟩, by rintro _ _ ⟨⟩, fun error hp => ?_⟩
    cases hp
    exact .inl rfl
  | keepsFsid | keepsPath => exact plain_of_none h.about rfl (by rintro _ ⟨⟩)

end Call

theorem Call.conclude_ok (request : CacheRequest) (first : StoreError) (pair : Pair) :
    request.conclude first (.ok pair) = .ok pair := by
  cases request <;> rfl

/-- An answer that is no error ends the attempt, and the pair is about to be kept. -/
theorem Call.Step.keeps_answer {c d : Call} {cache cache' : Cache} {q : Query} {value : q.Value}
    {now : Instant} {draw : Nat} {cancelled : Bool} (h : c.Plain good)
    (hstep : Step c cache (.answered q (.ok value) now draw cancelled) d cache') :
    d.phase = .keepingFsid (q.pair value) := by
  have hended : ∀ {q : Query} (pair : Pair), c.pending? = some q →
      (c.attemptEnded (.ok pair) now draw cancelled).phase = .keepingFsid pair := by
    intro q pair hq
    obtain ⟨run, hrun⟩ := h.started q hq
    rw [attemptEnded, hrun]
    rfl
  cases hstep with
  | ends _ _ _ _ hp => exact hended _ (by rw [pending?, hp])
  | concludes first _ _ _ _ _ hp =>
    have hconclude := conclude_ok c.request first (q.pair value)
    dsimp only [Except.map]
    rw [hconclude]
    exact hended _ (by rw [pending?, hp])

/-! ## Steps of a worker -/

namespace Worker

variable {w w' : Worker} {b b' : Backend} {draw : Retry.Backoff → Nat} {at_ at' : Surroundings}

/-- The worker is in the middle of no question that anybody disturbs. -/
def Undisturbed (w : Worker) : Prop := ∀ d due, w.inFlight = some (d, due) → d = {}

/-- What a step of a worker does over the memory store `m`.  It sees its token only if that is set. -/
inductive Does (w : Worker) (b : Backend) (m : MemoryStore) (at_ : Surroundings) :
    Worker → Backend → Prop
  /-- It begins to ask. -/
  | asks (q : Query) (due : Instant) (hq : w.call.pending? = some q) (hf : w.inFlight = none) :
    Does w b m at_ { w with inFlight := some ({}, due) }
      { b with store := ⟨.memory m, [], q.text :: b.store.log⟩ }
  /-- It hears the answer. -/
  | hears (q : Query) (now : Instant) (draw : Nat) (call : Call) (cache : Cache)
      (h : w.call.Step b.cache
        (.answered q (MemoryStore.source.ask q m).1 now draw at_.cancelled) call cache) :
    Does w b m at_ { call } ⟨cache, ⟨.memory (MemoryStore.source.ask q m).2, [], b.store.log⟩⟩
  /-- It makes a step that asks nothing. -/
  | moves (e : CallEvent) (call : Call) (cache : Cache) (he : e.isAnswer = false)
      (hc : e = .cancellationSeen → at_.cancelled = true) (h : w.call.Step b.cache e call cache)
      (hn : ∀ now, e = .looks now → now = at_.now) : Does w b m at_ { call } { b with cache }

/-- A step that asks nothing, of the call and of the worker. -/
theorem does_of_move {m : MemoryStore} {e : CallEvent} (he : e.isAnswer = false)
    (hc : e = .cancellationSeen → at_.cancelled = true) (hn : ∀ now, e = .looks now → now = at_.now)
    (h : (w.call.step? b.cache e).map (fun x => (({ call := x.1 } : Worker),
      { b with cache := x.2 }, at_)) = some (w', b', at')) : w.Does b m at_ w' b' ∧ at' = at_ := by
  obtain ⟨⟨call, cache⟩, hs, h⟩ := Option.map_eq_some_iff.mp h
  cases h
  exact ⟨.moves e call cache he hc (Call.step?_eq_some_iff.mp hs) hn, rfl⟩

/-- All that a step of a worker can do, if nobody disturbs it. -/
theorem does_of_step? {m : MemoryStore} (hm : b.store.store = .memory m)
    (hs : b.store.script = []) (hw : w.Undisturbed)
    (h : w.step? draw at_ b = some (w', b', at')) : w.Does b m at_ w' b' ∧ at' = at_ := by
  unfold step? at h
  dsimp only at h
  cases hq : w.call.pending? with
  | some q =>
    rw [hq] at h
    dsimp only at h
    cases hf : w.inFlight with
    | none =>
      rw [hf] at h
      have hbegin : b.store.begin q = ({}, ⟨.memory m, [], q.text :: b.store.log⟩) := by
        rw [ScriptedStore.begin, hs, hm]
        rfl
      dsimp only at h
      rw [hbegin] at h
      cases h
      exact ⟨.asks q _ hq hf, rfl⟩
    | some asked =>
      obtain ⟨d, due⟩ := asked
      obtain rfl := hw d due hf
      rw [hf] at h
      dsimp only at h
      have hfinish : b.store.finish {} q = ((MemoryStore.source.ask q m).1,
          ⟨.memory (MemoryStore.source.ask q m).2, [], b.store.log⟩) := by
        unfold ScriptedStore.finish
        rw [hm, hs]
        rfl
      split at h
      · rw [hfinish] at h
        obtain ⟨⟨call, cache⟩, hstep, h⟩ := Option.map_eq_some_iff.mp h
        cases h
        rw [Bool.or_false] at hstep ⊢
        exact ⟨.hears q _ _ call cache (Call.step?_eq_some_iff.mp hstep), rfl⟩
      · cases h
  | none =>
    rw [hq] at h
    dsimp only at h
    split at h
    · exact does_of_move rfl (by rintro ⟨⟩) (by rintro _ ⟨⟩; rfl) h
    · exact does_of_move rfl (by rintro ⟨⟩) (by rintro _ ⟨⟩) h
    · exact does_of_move rfl (by rintro ⟨⟩) (by rintro _ ⟨⟩) h
    · split at h
      · exact does_of_move rfl (by rintro ⟨⟩) (by rintro _ ⟨⟩) h
      · split at h
        · rename_i hcancelled
          exact does_of_move rfl (fun _ => hcancelled) (by rintro _ ⟨⟩) h
        · cases h
    · cases h

/-- What the call of a worker has found it keeps. -/
theorem Does.pair?_eq {m : MemoryStore} (h : w.Does b m at_ w' b') {pair : Pair}
    (hp : w.call.phase.pair? = some pair) : w'.call.phase.pair? = some pair := by
  cases h with
  | asks => exact hp
  | hears q now draw call cache hstep => exact hstep.pair?_eq hp
  | moves e call cache he hc hstep => exact hstep.pair?_eq hp

theorem Does.request_eq {m : MemoryStore} (h : w.Does b m at_ w' b') :
    w'.call.request = w.call.request := by
  cases h with
  | asks => rfl
  | hears q now draw call cache hstep => exact hstep.request_eq
  | moves e call cache he hc hstep => exact hstep.request_eq

/-- What a worker knows is in line with a list of paths. -/
structure Sound (paths : List String) (good : String → Prop) (w : Worker) : Prop where
  undisturbed : w.Undisturbed
  call : w.call.Sound (Numbered paths)
  plain : w.call.Plain good

theorem sound_begin (paths : List String) (policy : Retry.Policy) {request : CacheRequest}
    (h : request.About good) : ({ call := .begin policy request } : Worker).Sound paths good :=
  ⟨(by rintro _ _ ⟨⟩), Call.sound_begin policy request, Call.plain_begin policy h⟩

theorem Sound.append {paths : List String} (h : w.Sound paths good) (more : List String) :
    w.Sound (paths ++ more) good :=
  ⟨h.undisturbed, h.call.mono fun _ hn => hn.append more, h.plain⟩

/-- How the list of paths grows by a step of a worker: not at all, or by the path that the worker was
about to allocate and has found the pair of now. -/
inductive Grows (w w' : Worker) (paths : List String) : List String → Prop
  | stays : Grows w w' paths paths
  | allocates (path : String) (fsid : Fsid) (hq : w.call.pending? = some (.allocate path))
      (hv : fsid.val = paths.length + 1) (hp : w'.call.phase = .keepingFsid (fsid, path)) :
    Grows w w' paths (paths ++ [path])

/-- An answer makes the list grow by the path that was allocated, if it is one. -/
theorem grows_of_answered {paths after : List String} {m : MemoryStore} {q : Query} {call : Call}
    {cache cache' : Cache} {now : Instant} {draw : Nat} {cancelled : Bool} (hm : m.Holds paths)
    (hw : w.Sound paths good) (ha : m.Asked paths q after)
    (h : w.call.Step cache (.answered q (MemoryStore.source.ask q m).1 now draw cancelled) call
      cache') : Grows w { call } paths after := by
  rw [ha.grows]
  cases q with
  | fsidOf | pathOf =>
    rw [MemoryStore.newlyIssued, List.map_nil, List.append_nil]
    exact .stays
  | allocate path =>
    have hask : (MemoryStore.source.ask (.allocate path) m).1 = (m.allocate path).1 := rfl
    rw [hask] at h
    cases hr : (m.allocate path).1 with
    | error e =>
      rw [MemoryStore.newlyIssued, hr, List.map_nil, List.append_nil]
      exact .stays
    | ok fsid =>
      have hissued := ha.issued (fsid, path)
      have hgrows := ha.grows
      rw [MemoryStore.newlyIssued, hr] at hissued hgrows ⊢
      rw [hr] at h
      refine .allocates path fsid (Sharing.pending?_eq_of_answered h) ?_ (h.keeps_answer hw.plain)
      have hnumbered := hissued (List.mem_singleton.mpr rfl)
      rw [hgrows] at hnumbered
      obtain hold | ⟨_, hv⟩ := numbered_concat_iff.mp hnumbered
      · -- The path was allocated, so it was not on the list.
        have hmem := hm.allocate_of_mem hold.mem
        rw [hmem] at hr
        cases hr
      · exact hv

/-- **A step of a worker keeps everything in line with the list of paths**, which grows at most by the
path that the worker was about to allocate. -/
theorem Does.sound {paths : List String} {m : MemoryStore} (h : w.Does b m at_ w' b')
    (hm : b.store.store = .memory m) (hb : b.Holds paths) (hw : w.Sound paths good) :
    ∃ after, Grows w w' paths after ∧ b'.Holds after ∧ w'.Sound after good := by
  obtain ⟨m', hm', hholds⟩ := hb.store
  obtain rfl : m = m' := by
    rw [hm] at hm'
    cases hm'
    rfl
  cases h with
  | asks q due hq =>
    refine ⟨paths, .stays, ⟨⟨m, rfl, hholds⟩, rfl, hb.cache⟩, ⟨?_, hw.call, hw.plain⟩⟩
    rintro d due' hd
    cases hd
    rfl
  | moves e call cache he hc hstep =>
    have hnot : ∀ q (answer : Answer q) now draw cancelled,
        e ≠ .answered q answer now draw cancelled := by
      rintro q answer now draw cancelled rfl
      cases he
    obtain ⟨hsound, hwithin⟩ := hstep.sound hb.cache hw.call
      fun q value now draw cancelled heq => absurd heq (hnot q _ now draw cancelled)
    have hplain := hstep.plain hw.plain
      fun q error now draw cancelled heq => absurd heq (hnot q _ now draw cancelled)
    exact ⟨paths, .stays, ⟨hb.store, hb.script, hwithin⟩,
      ⟨(by rintro _ _ ⟨⟩), hsound, hplain⟩⟩
  | hears q now draw call cache hstep =>
    obtain ⟨after, hasked⟩ := hholds.asked q
    have hmono : ∀ pair, Numbered paths pair → Numbered after pair := by
      rw [hasked.grows]
      exact fun pair hn => hn.append _
    obtain ⟨hsound, hwithin⟩ := hstep.sound (hb.cache.mono hmono) (hw.call.mono hmono)
      fun q' value _ _ _ heq => by
        injection heq with hq hanswer
        subst hq
        exact hasked.ok value (eq_of_heq hanswer)
    have hplain := hstep.plain hw.plain fun q' error _ _ _ heq hq' => by
      injection heq with hq hanswer
      subst hq
      exact MemoryStore.plain_of_ask hq' (eq_of_heq hanswer)
    exact ⟨after, grows_of_answered hholds hw hasked hstep, ⟨⟨_, rfl, hasked.holds⟩, rfl, hwithin⟩,
      ⟨(by rintro _ _ ⟨⟩), hsound, hplain⟩⟩

end Worker

end FsidRegistry

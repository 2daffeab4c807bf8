import FsidRegistry.Proofs.Cache.Shared
import FsidRegistry.Proofs.Cache.Stages

/-!
# Calls beside other calls

A call begins when a memory store holds a list of paths, and others allocate paths while it is at work.
What was on the list it finds.  Of other paths it may be told that they have no fsid, and the path that
it then allocates may have got one in between: it has lost a race.

* `CacheRequest.NewTo`: a request for nothing on a list.
* `Call.Late`: where such a call can stand, by the list at its begin and the one of now.
* `Call.Step.late`, `Call.Late.hears`: every step leaves the call so.
* `Call.Late.ends`: what it comes to.
* `Worker.Stands`, `Worker.Stands.late_step`: the same for a worker that carries the call.
-/

namespace FsidRegistry

variable {good : String → Prop} {old paths after : List String}

namespace CacheRequest

variable {request : CacheRequest}

/-- The request is for nothing on a list. -/
def NewTo (request : CacheRequest) (old : List String) : Prop :=
  ∀ pair, request.IsFor pair → ¬ Numbered old pair

/-- A request is for one pair of a list only. -/
theorem eq_of_isFor (hn : paths.Nodup) {p q : Pair} (hp : Numbered paths p) (hq : Numbered paths q)
    (h : request.IsFor p) (h' : request.IsFor q) : p = q := by
  have hiff := hp.fsid_eq_iff hn hq
  cases request with
  | pathOf fsid =>
    have hfsid : p.1 = q.1 := Eq.trans h (Eq.symm h')
    exact Prod.ext hfsid (hiff.mp hfsid)
  | fsidOf path | allocate path | fsidOrAllocate path =>
    have hpath : p.2 = q.2 := Eq.trans h (Eq.symm h')
    exact Prod.ext (hiff.mpr hpath) hpath

/-- The first question of a lookup is refused by the error that says so, which ends the lookup or
sends it on to allocate. -/
theorem refused_opening (hr : ∀ path, request ≠ .allocate path) {e : StoreError}
    (he : Refused paths request.opening e) : e = .notFound ∧
      (request.mayMiss = true ∧ request.followUp? e = none ∨
        ∃ path, request = .fsidOrAllocate path ∧
          request.followUp? e = some (.allocate path)) := by
  cases request with
  | allocate path => exact absurd rfl (hr path)
  | fsidOf path =>
    cases he
    exact ⟨rfl, .inl ⟨rfl, rfl⟩⟩
  | pathOf fsid =>
    cases he
    exact ⟨rfl, .inl ⟨rfl, rfl⟩⟩
  | fsidOrAllocate path =>
    cases he
    exact ⟨rfl, .inr ⟨path, rfl, rfl⟩⟩

end CacheRequest

namespace Call

variable {c d : Call} {cache cache' : Cache} {e : CallEvent} {q : Query} {m : MemoryStore}

/-! ## Where a call can stand -/

/-- Somebody else was faster: the path that the call is to create the fsid of was not on the old list
and is on the list of now. -/
def Outrun (old paths : List String) (c : Call) : Prop :=
  ∃ path, c.request = .fsidOrAllocate path ∧ c.request.NewTo old ∧ path ∈ paths

theorem Outrun.mono (h : c.Outrun old paths) (hgrown : paths <+: after) : c.Outrun old after := by
  obtain ⟨path, hr, hnew, hmem⟩ := h
  exact ⟨path, hr, hnew, hgrown.mem hmem⟩

theorem Outrun.of_request (h : c.Outrun old paths) (hr : d.request = c.request) :
    d.Outrun old paths := by
  unfold Outrun
  rw [hr]
  exact h

/-- Where a call can stand that nobody cancels, that has begun since a memory store held `old`, and
whose store holds `paths` by now.  What was on the old list it can neither miss nor lose. -/
inductive Late (old paths : List String) (c : Call) : Prop
  | asks (h : c.phase = .looking ∨ c.phase = .opening)
  | found (pair : Pair) (h : c.phase.pair? = some pair)
  | missed (hm : c.request.mayMiss = true) (hnew : c.request.NewTo old)
      (h : c.phase = .finished (.ok none))
  | allocates (path : String) (hr : c.request = .fsidOrAllocate path) (hnew : c.request.NewTo old)
      (h : c.phase = .following .notFound (.allocate path))
  /-- Somebody else has allocated the path, and there is time for another attempt. -/
  | pauses (wake : Instant) (ho : c.Outrun old paths) (hrun : ∃ run, c.run = some run)
      (h : c.phase = .pausing wake)
  | loses (path : String) (hr : c.request = .fsidOrAllocate path) (hnew : c.request.NewTo old)
      (hmem : path ∈ paths) (h : c.phase = .finished (.error (.store (.conflict path))))
  | exhausts (path : String) (hr : c.request = .fsidOrAllocate path) (hnew : c.request.NewTo old)
      (hfull : paths.length = issuable)
      (h : c.phase = .finished (.error (.store (.other "fsid space exhausted"))))
  | faults (fault : Fault) (h : c.phase = .faulted fault)

theorem late_begin (old paths : List String) (policy : Retry.Policy) (request : CacheRequest) :
    (begin policy request).Late old paths := .asks (.inl rfl)

/-- Paths that others allocate do not change where a call stands. -/
theorem Late.mono (h : c.Late old paths) (hgrown : paths <+: after) (hle : after.length ≤ issuable) :
    c.Late old after := by
  cases h with
  | asks h => exact .asks h
  | found pair h => exact .found pair h
  | missed hm hnew h => exact .missed hm hnew h
  | allocates path hr hnew h => exact .allocates path hr hnew h
  | pauses wake ho hrun h => exact .pauses wake (ho.mono hgrown) hrun h
  | loses path hr hnew hmem h => exact .loses path hr hnew (hgrown.mem hmem) h
  | exhausts path hr hnew hfull h =>
    exact .exhausts path hr hnew (Nat.le_antisymm hle (hfull ▸ hgrown.length_le)) h
  | faults fault h => exact .faults fault h

/-- A second question is asked to allocate a path that was not on the old list. -/
theorem Late.of_following (h : c.Late old paths) {first : StoreError}
    (hp : c.phase = .following first q) :
    ∃ path, c.request = .fsidOrAllocate path ∧ c.request.NewTo old ∧ first = .notFound ∧
      q = .allocate path := by
  cases h with
  | allocates path hr hnew h =>
    rw [hp] at h
    cases h
    exact ⟨path, hr, hnew, rfl, rfl⟩
  | asks h =>
    rw [hp] at h
    obtain h | h := h <;> cases h
  | found _ h | missed _ _ h | pauses _ _ _ h | loses _ _ _ _ h | exhausts _ _ _ _ h
  | faults _ h =>
    rw [hp] at h
    cases h

/-- A call pauses after it has lost a race. -/
theorem Late.of_pausing (h : c.Late old paths) {wake : Instant} (hp : c.phase = .pausing wake) :
    c.Outrun old paths ∧ ∃ run, c.run = some run := by
  cases h with
  | pauses wake ho hrun => exact ⟨ho, hrun⟩
  | asks h =>
    rw [hp] at h
    obtain h | h := h <;> cases h
  | found _ h | missed _ _ h | allocates _ _ _ h | loses _ _ _ _ h | exhausts _ _ _ _ h
  | faults _ h =>
    rw [hp] at h
    cases h

/-- What a call comes to. -/
theorem Late.ends (h : c.Late old paths) {result : Except Error (Option Pair)}
    (hp : c.phase = .finished result) :
    (∃ pair, result = .ok (some pair)) ∨
      (c.request.mayMiss = true ∧ c.request.NewTo old ∧ result = .ok none) ∨
      ∃ path, c.request = .fsidOrAllocate path ∧ c.request.NewTo old ∧
        (path ∈ paths ∧ result = .error (.store (.conflict path)) ∨
          paths.length = issuable ∧ result = .error (.store (.other "fsid space exhausted"))) := by
  cases h with
  | asks h =>
    rw [hp] at h
    obtain h | h := h <;> cases h
  | found pair h =>
    rw [hp] at h
    obtain error | _ | found := result
    · cases h
    · cases h
    · exact .inl ⟨found, rfl⟩
  | missed hm hnew h =>
    rw [hp] at h
    cases h
    exact .inr (.inl ⟨hm, hnew, rfl⟩)
  | loses path hr hnew hmem h =>
    rw [hp] at h
    cases h
    exact .inr (.inr ⟨path, hr, hnew, .inl ⟨hmem, rfl⟩⟩)
  | exhausts path hr hnew hfull h =>
    rw [hp] at h
    cases h
    exact .inr (.inr ⟨path, hr, hnew, .inr ⟨hfull, rfl⟩⟩)
  | allocates _ _ _ h | pauses _ _ _ h | faults _ h =>
    rw [hp] at h
    cases h

/-! ## Steps -/

/-- A step in which the store is not asked. -/
theorem Step.late (hstep : Step c cache e d cache') (he : e.isAnswer = false)
    (hc : e ≠ .cancellationSeen) : d.Late old paths := by
  cases hstep with
  | hits now pair => exact .found pair rfl
  | starts now =>
    unfold withRun Retry.Run.start
    cases now.after c.policy.deadline with
    | ok deadline => exact .asks (.inr rfl)
    | error fault => exact .faults fault rfl
  | follows | ends | concludes => cases he
  | resumes => exact .asks (.inr rfl)
  | cancels => exact absurd rfl hc
  | keepsFsid fsid path | keepsPath fsid path => exact .found (fsid, path) rfl

/-- An attempt that ends leaves the retried operation in place. -/
theorem attemptEnded_run {run : Retry.Run Pair} (hrun : c.run = some run)
    (outcome : Except StoreError Pair) (now : Instant) (draw : Nat) (cancelled : Bool) :
    ∃ run', (c.attemptEnded outcome now draw cancelled).run = some run' := by
  rw [attemptEnded, hrun]
  exact ⟨_, rfl⟩

/-- A call that loses a race pauses, or ends with the conflict. -/
theorem late_of_conflict {path : String} (hr : c.request = .fsidOrAllocate path)
    (hnew : c.request.NewTo old) (hmem : path ∈ paths) {run : Retry.Run Pair}
    (hrun : c.run = some run) (hp : c.phase = .following .notFound (.allocate path))
    (now : Instant) (draw : Nat) :
    (c.attemptEnded (.error (.conflict path)) now draw false).Late old paths := by
  have hrun' := attemptEnded_run hrun (.error (.conflict path)) now draw false
  rcases attemptEnded_cases c (.error (.conflict path)) now draw false with he | ⟨hrequest, ha⟩
  · rw [he]
    exact .allocates path hr hnew hp
  · generalize c.attemptEnded (.error (.conflict path)) now draw false = d at *
    rw [← hrequest] at hr hnew
    generalize hphase : d.phase = phase at ha
    cases ha with
    | fails e =>
      rw [← hrequest, hr] at hphase
      exact .loses path hr hnew hmem hphase
    | cancelled e hc => cases hc
    | pauses e wake => exact .pauses wake ⟨path, hr, hnew, hmem⟩ hrun' hphase
    | faults e fault => exact .faults fault hphase

/-- The end of a lookup that is refused. -/
theorem late_of_notFound (hm : c.request.mayMiss = true) (hnew : c.request.NewTo old)
    {run : Retry.Run Pair} (hrun : c.run = some run) (now : Instant) (draw : Nat) :
    (c.attemptEnded (.error .notFound) now draw false).Late old paths := by
  obtain ⟨hphase, hrequest, -⟩ := attemptEnded_of_permanent hrun (e := .notFound) rfl now draw false
  rw [CacheRequest.settle, hm] at hphase
  exact .missed (hrequest ▸ hm) (hrequest ▸ hnew) hphase

/-- The end of an allocation that the store has no fsid for. -/
theorem late_of_exhausted {path : String} (hr : c.request = .fsidOrAllocate path)
    (hnew : c.request.NewTo old) (hfull : paths.length = issuable) {run : Retry.Run Pair}
    (hrun : c.run = some run) (now : Instant) (draw : Nat) :
    (c.attemptEnded (.error (.other "fsid space exhausted")) now draw false).Late old paths := by
  obtain ⟨hphase, hrequest, -⟩ :=
    attemptEnded_of_permanent hrun (e := .other "fsid space exhausted") rfl now draw false
  rw [hr] at hphase
  exact .exhausts path (hrequest.trans hr) (hrequest ▸ hnew) hfull hphase

/-- **A call that hears an answer of the store misses or loses only what was not on the old list.** -/
theorem Late.hears (h : c.Late old paths) (hplain : c.Plain good)
    (hr : ∀ path, c.request ≠ .allocate path) (hm : m.Holds paths)
    (hold : ∀ pair, Numbered old pair → Numbered paths pair) (hasked : m.Asked paths q after)
    {now : Instant} {draw : Nat}
    (hstep : Step c cache (.answered q (MemoryStore.source.ask q m).1 now draw false) d cache') :
    d.Late old after := by
  have hgrown : paths <+: after := by
    rw [hasked.grows]
    exact List.prefix_append _ _
  cases hanswer : (MemoryStore.source.ask q m).1 with
  | ok value =>
    rw [hanswer] at hstep
    exact .found (q.pair value) (by rw [hstep.keeps_answer hplain]; rfl)
  | error e =>
    have hrefused := hm.refused hanswer
    have hmissing := hasked.notFound e hanswer
    rw [hanswer] at hstep
    -- What the first question did not find is not on the list of now.
    have hnewTo : q = c.request.opening → e = .notFound → c.request.NewTo old := by
      rintro rfl rfl pair hfor hn
      exact hmissing rfl pair (CacheRequest.isFor_opening.mpr hfor) (hold pair hn)
    cases hstep with
    | follows e' next _ _ _ hp hf =>
      obtain ⟨rfl, ⟨-, hnone⟩ | ⟨path, hpath, hnext⟩⟩ := CacheRequest.refused_opening hr hrefused
      · rw [hf] at hnone
        cases hnone
      · rw [hf] at hnext
        cases hnext
        exact .allocates path hpath (hnewTo rfl rfl) rfl
    | ends _ _ _ _ hp hf =>
      obtain ⟨run, hrun⟩ := hplain.started _ (by rw [pending?, hp])
      obtain ⟨rfl, ⟨hmiss, -⟩ | ⟨path, -, hnext⟩⟩ := CacheRequest.refused_opening hr hrefused
      · exact late_of_notFound hmiss (hnewTo rfl rfl) hrun now draw
      · rw [hf _ rfl] at hnext
        cases hnext
    | concludes first query _ _ _ _ hp =>
      obtain ⟨run, hrun⟩ := hplain.started q (by rw [pending?, hp])
      obtain ⟨path, hpath, hnew, rfl, rfl⟩ := h.of_following hp
      have hconclude : c.request.conclude .notFound (.error e) = .error e := by rw [hpath]; rfl
      dsimp only [Except.map]
      rw [hconclude]
      cases hrefused with
      | taken _ hmem =>
        exact late_of_conflict hpath hnew (hgrown.mem hmem) hrun hp now draw
      | full _ _ hfull =>
        have hlength : after.length = issuable :=
          Nat.le_antisymm hasked.holds.length_le (hfull ▸ hgrown.length_le)
        exact late_of_exhausted hpath hnew hlength hrun now draw

end Call

/-! ## Workers -/

namespace Worker

variable {w w' : Worker} {b b' : Backend} {at_ at' : Surroundings} {draw : Retry.Backoff → Nat}
  {m : MemoryStore}

/-- A worker over a memory store, with a call that has begun since the store held `old`. -/
structure Stands (old paths : List String) (good : String → Prop) (b : Backend) (w : Worker) :
    Prop where
  backend : b.Holds paths
  sound : w.Sound paths good
  lookup : ∀ path, w.call.request ≠ .allocate path
  older : ∀ pair, Numbered old pair → Numbered paths pair
  late : w.call.Late old paths

/-- All that its steps do. -/
theorem Stands.does (h : w.Stands old paths good b)
    (hs : w.step? draw at_ b = some (w', b', at')) :
    ∃ m, b.store.store = .memory m ∧ m.Holds paths ∧ w.Does b m at_ w' b' := by
  obtain ⟨m, hm, hholds⟩ := h.backend.store
  obtain ⟨hdoes, -⟩ := does_of_step? hm h.backend.script h.sound.undisturbed hs
  exact ⟨m, hm, hholds, hdoes⟩

/-- **A step of a worker that nobody cancels leaves its call where a call can stand.** -/
theorem Stands.late_step (h : w.Stands old paths good b) (hc : at_.cancelled = false)
    (hs : w.step? draw at_ b = some (w', b', at')) (hafter : b'.Holds after) :
    w'.call.Late old after := by
  obtain ⟨m, hm, hholds, hdoes⟩ := h.does hs
  obtain ⟨m', hm', hholds'⟩ := hafter.store
  cases hdoes with
  | asks q due hq =>
    cases hm'
    obtain rfl := hholds.unique hholds'
    exact h.late
  | moves e call cache he hcancelled hstep =>
    cases hm.symm.trans hm'
    obtain rfl := hholds.unique hholds'
    refine hstep.late he fun hseen => ?_
    rw [hcancelled hseen] at hc
    cases hc
  | hears q now draw call cache hstep =>
    cases hm'
    obtain ⟨after', hasked⟩ := hholds.asked q
    obtain rfl := hasked.holds.unique hholds'
    rw [hc] at hstep
    exact h.late.hears h.sound.plain h.lookup hholds h.older hasked hstep

end Worker

end FsidRegistry

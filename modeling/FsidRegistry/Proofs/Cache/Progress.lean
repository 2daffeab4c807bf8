import FsidRegistry.Proofs.Cache.Late
import FsidRegistry.Proofs.Cache.Transparency

/-!
# How long a call takes beside other calls

A call over a memory store that nobody cancels comes to its end after a few steps of its own, however
the steps of others fall between.  It asks two questions at most before it loses a race, and one after
that, since the path that it has lost stays in the store.

* `Worker.rank`: how many steps a worker has left at most.
* `Worker.rank_le_of_grown`: the paths that others allocate do not add to them.
* `Worker.Stands.rank_lt`: a step of its own leaves it fewer.
* `Worker.isOver_or_exists_step`: until its call is over it can make a step, once the clock has gone on.
* `Worker.Stands.outrun_of_faulted`: it faults only if somebody else was faster, while the clock does
  not end.
-/

namespace FsidRegistry

variable {good : String → Prop} {old paths after : List String} {m : MemoryStore}

/-! ## What is known -/

namespace CacheRequest

variable {request : CacheRequest}

/-- The pair that the request is for is on the list. -/
def isKnown (request : CacheRequest) (paths : List String) : Bool :=
  match request with
  | .fsidOf path | .allocate path | .fsidOrAllocate path => paths.contains path
  | .pathOf fsid => decide (1 ≤ fsid.val ∧ fsid.val ≤ paths.length)

theorem isKnown_of_grown (hgrown : paths <+: after) (h : request.isKnown paths = true) :
    request.isKnown after = true := by
  cases request with
  | fsidOf path | allocate path | fsidOrAllocate path =>
    exact List.contains_iff_mem.mpr (hgrown.mem (List.contains_iff_mem.mp h))
  | pathOf fsid =>
    have hle : (paths.length : Int) ≤ after.length := Int.ofNat_le.mpr hgrown.length_le
    have hval := of_decide_eq_true h
    exact decide_eq_true ⟨hval.1, by omega⟩

/-- What is known is on the list. -/
theorem NewTo.isKnown_eq_false (hm : m.Holds paths) (h : request.NewTo paths) :
    request.isKnown paths = false := by
  rw [Bool.eq_false_iff]
  intro hknown
  cases request with
  | fsidOf path | allocate path | fsidOrAllocate path =>
    obtain ⟨fsid, -, hn⟩ := hm.fsidOf_of_mem (List.contains_iff_mem.mp hknown)
    exact h (fsid, path) rfl hn
  | pathOf fsid =>
    obtain ⟨hpos, hle⟩ := of_decide_eq_true hknown
    obtain ⟨i, hi⟩ : ∃ i : Nat, fsid.val = i + 1 := ⟨(fsid.val - 1).toNat, by omega⟩
    have hlt : i < paths.length := by omega
    exact h (fsid, paths[i]) rfl ⟨i, List.getElem?_eq_getElem hlt, hi⟩

end CacheRequest

/-! ## Steps that are left -/

namespace CallPhase

/-- How many steps are left at most, by whether the pair is on the list by now and whether the store
has been asked already. -/
def rank (known asked : Bool) : CallPhase → Nat
  | .looking => 10
  | .opening => (if known then 3 else 8) + (if asked then 0 else 1)
  | .following _ _ => 6 + (if asked then 0 else 1)
  | .pausing _ => 5
  | .keepingFsid _ => 2
  | .keepingPath _ => 1
  | .finished _ | .faulted _ => 0

theorem rank_le (known asked : Bool) (phase : CallPhase) : phase.rank known asked ≤ 10 := by
  cases phase <;> cases known <;> cases asked <;> simp [rank]

theorem rank_mono {known known' : Bool} (h : known = true → known' = true) (asked : Bool)
    (phase : CallPhase) : phase.rank known' asked ≤ phase.rank known asked := by
  cases phase with
  | opening =>
    cases known with
    | true => rw [h rfl]
    | false => cases known' <;> simp [rank]
  | _ => exact Nat.le_refl _

/-- After an attempt that has failed there is at most a pause and a last attempt. -/
theorem rank_of_afterAttempt {request : CacheRequest} {cancelled : Bool} {e : StoreError}
    {phase : CallPhase} (h : AfterAttempt request cancelled (.error e) phase) (known asked : Bool) :
    phase.rank known asked ≤ 5 := by
  cases h with
  | pauses => exact Nat.le_refl 5
  | fails | cancelled | faults => exact Nat.zero_le 5

end CallPhase

namespace Worker

variable {w w' : Worker} {b b' : Backend} {at_ at' : Surroundings} {draw : Retry.Backoff → Nat}
  {q : Query} {cache cache' : Cache} {call : Call}

/-- How many steps of its own a worker has left at most. -/
def rank (w : Worker) (paths : List String) : Nat :=
  w.call.phase.rank (w.call.request.isKnown paths) w.inFlight.isSome

theorem rank_le_ten (w : Worker) (paths : List String) : w.rank paths ≤ 10 :=
  CallPhase.rank_le _ _ _

/-- What others allocate adds nothing. -/
theorem rank_le_of_grown (w : Worker) (hgrown : paths <+: after) : w.rank after ≤ w.rank paths :=
  CallPhase.rank_mono (CacheRequest.isKnown_of_grown hgrown) _ _

theorem rank_of_phase {phase : CallPhase} (h : w.call.phase = phase) (paths : List String) :
    w.rank paths = phase.rank (w.call.request.isKnown paths) w.inFlight.isSome := by
  rw [rank, h]

/-- A step in which the store is not asked. -/
theorem rank_lt_of_move {e : CallEvent} (hstep : w.call.Step cache e call cache')
    (he : e.isAnswer = false) (hc : e ≠ .cancellationSeen) (hl : w.call.Late old paths) :
    ({ call } : Worker).rank paths < w.rank paths := by
  cases hstep with
  | hits now pair h =>
    rw [rank_of_phase h]
    exact Nat.zero_lt_succ _
  | starts now h =>
    rw [rank_of_phase h]
    show (Call.phaseOf w.call.request (Retry.Run.start w.call.policy now).phase).rank _ _ < 10
    unfold Retry.Run.start
    cases now.after w.call.policy.deadline with
    | ok deadline =>
      show CallPhase.rank (w.call.request.isKnown paths) false .opening < 10
      cases w.call.request.isKnown paths <;> decide
    | error fault => exact Nat.zero_lt_succ _
  | follows | ends | concludes => cases he
  | resumes wake now run h =>
    -- The path that was lost is on the list.
    obtain ⟨⟨path, hr, -, hmem⟩, -⟩ := hl.of_pausing h
    have hknown : w.call.request.isKnown paths = true := by
      rw [hr]
      exact List.contains_iff_mem.mpr hmem
    rw [rank_of_phase h]
    show CallPhase.rank (w.call.request.isKnown paths) false .opening < 5
    rw [hknown]
    decide
  | cancels => exact absurd rfl hc
  | keepsFsid fsid path h | keepsPath fsid path h =>
    rw [rank_of_phase h]
    exact Nat.lt_succ_self _

/-- An attempt that has failed leaves less than a worker has left that waits for the store. -/
theorem rank_attemptEnded_le {outcome : Except StoreError Pair} {e : StoreError}
    (ho : outcome = .error e) {run : Retry.Run Pair} (hrun : w.call.run = some run) (now : Instant)
    (draw : Nat) (cancelled : Bool) :
    ({ call := w.call.attemptEnded outcome now draw cancelled } : Worker).rank after ≤ 5 := by
  subst ho
  rw [Call.attemptEnded_of_run hrun]
  exact CallPhase.rank_of_afterAttempt
    (Call.afterAttempt_phaseOf w.call.request run (.error e) now draw cancelled) _ _

/-- A step in which an answer is heard. -/
theorem Stands.rank_lt_of_answer (h : w.Stands old paths good b) (hm : m.Holds paths)
    {now : Instant} {draw : Nat} {cancelled : Bool}
    (hstep : w.call.Step cache (.answered q (MemoryStore.source.ask q m).1 now draw cancelled) call
      cache') : ({ call } : Worker).rank after < w.rank paths := by
  have hopening : ∀ known, 3 ≤ CallPhase.rank known w.inFlight.isSome .opening := by
    rintro (_ | _)
    · exact Nat.le_trans (by decide) (Nat.le_add_right 8 _)
    · exact Nat.le_add_right 3 _
  have hfollowing : ∀ {first second}, w.call.phase = .following first second → 6 ≤ w.rank paths := by
    intro first second hp
    rw [rank_of_phase hp]
    exact Nat.le_add_right _ _
  cases hanswer : (MemoryStore.source.ask q m).1 with
  | ok value =>
    rw [hanswer] at hstep
    have hkeeps : ({ call } : Worker).rank after = 2 := by
      rw [rank_of_phase (hstep.keeps_answer h.sound.plain)]
      rfl
    rw [hkeeps]
    cases hstep with
    | ends _ _ _ _ hp =>
      rw [rank_of_phase hp]
      exact hopening _
    | concludes _ _ _ _ _ _ hp => exact Nat.lt_of_lt_of_le (by decide) (hfollowing hp)
  | error e =>
    have hrefused := hm.refused hanswer
    obtain ⟨after', hasked⟩ := hm.asked q
    have hmissing := hasked.notFound e hanswer
    rw [hanswer] at hstep
    -- What the first question did not find is not on the list.
    have hunknown : w.call.phase = .opening → q = w.call.request.opening → e = .notFound →
        8 ≤ w.rank paths := by
      rintro hp rfl rfl
      have hnew : w.call.request.NewTo paths :=
        fun pair hfor => hmissing rfl pair (CacheRequest.isFor_opening.mpr hfor)
      rw [rank_of_phase hp, hnew.isKnown_eq_false hm]
      exact Nat.le_add_right _ _
    cases hstep with
    | follows e' next _ _ _ hp hf =>
      obtain ⟨he, -⟩ := CacheRequest.refused_opening h.lookup hrefused
      exact Nat.lt_of_lt_of_le (Nat.lt_succ_self 7) (hunknown hp rfl he)
    | ends _ _ _ _ hp hf =>
      obtain ⟨he, -⟩ := CacheRequest.refused_opening h.lookup hrefused
      obtain ⟨run, hrun⟩ := h.sound.plain.started _ (by rw [Call.pending?, hp])
      have hle : ({ call := w.call.attemptEnded (.error e) now draw cancelled } : Worker).rank
          after ≤ 5 := rank_attemptEnded_le rfl hrun now draw cancelled
      exact Nat.lt_of_le_of_lt hle (Nat.lt_of_lt_of_le (by decide) (hunknown hp rfl he))
    | concludes first query _ _ _ _ hp =>
      obtain ⟨run, hrun⟩ := h.sound.plain.started q (by rw [Call.pending?, hp])
      obtain ⟨path, hpath, -⟩ := h.late.of_following hp
      have hconclude : w.call.request.conclude first (.error e) = .error e := by rw [hpath]; rfl
      exact Nat.lt_of_le_of_lt (rank_attemptEnded_le hconclude hrun now draw cancelled)
        (hfollowing hp)

/-- **A worker has fewer steps left after a step of its own.** -/
theorem Stands.rank_lt (h : w.Stands old paths good b) (hc : at_.cancelled = false)
    (hs : w.step? draw at_ b = some (w', b', at')) (hgrown : paths <+: after) :
    w'.rank after < w.rank paths := by
  obtain ⟨m, -, hm, hdoes⟩ := h.does hs
  cases hdoes with
  | asks q due hq hf =>
    refine Nat.lt_of_le_of_lt (rank_le_of_grown _ hgrown) ?_
    show CallPhase.rank _ true w.call.phase < CallPhase.rank _ w.inFlight.isSome w.call.phase
    rw [hf]
    unfold Call.pending? at hq
    split at hq
    · rename_i hp
      rw [hp]
      exact Nat.lt_succ_self _
    · rename_i hp
      rw [hp]
      exact Nat.lt_succ_self _
    · cases hq
  | moves e call cache he hcancelled hstep =>
    refine Nat.lt_of_le_of_lt (rank_le_of_grown _ hgrown) (rank_lt_of_move hstep he ?_ h.late)
    intro hseen
    rw [hcancelled hseen] at hc
    cases hc
  | hears q now draw call cache hstep => exact h.rank_lt_of_answer hm hstep

/-! ## Going on -/

/-- **Until its call is over a worker can make a step**, once the clock has gone on. -/
theorem isOver_or_exists_step (hl : w.call.Late old paths) (draw : Retry.Backoff → Nat)
    (b : Backend) : w.call.phase.IsOver ∨
      ∃ due, ∀ at_ : Surroundings, due ≤ at_.now → ∃ x, w.step? draw at_ b = some x := by
  have hmove : ∀ {b : Backend} {e : CallEvent} {call : Call} {cache : Cache} {at_ : Surroundings},
      w.call.Step b.cache e call cache → ∃ x : Worker × Backend × Surroundings,
        (w.call.step? b.cache e).map (fun x => (({ call := x.1 } : Worker),
          { b with cache := x.2 }, at_)) = some x := by
    intro b e call cache at_ hstep
    exact ⟨_, by rw [hstep.step?]; rfl⟩
  -- A question is begun at once, and its answer is heard when it is due.
  have hask : ∀ q, w.call.pending? = some q →
      ∃ due, ∀ at_ : Surroundings, due ≤ at_.now → ∃ x, w.step? draw at_ b = some x := by
    intro q hq
    cases hf : w.inFlight with
    | none =>
      refine ⟨0, fun at_ _ => ?_⟩
      unfold step?
      dsimp only
      rw [hq, hf]
      exact ⟨_, rfl⟩
    | some asked =>
      obtain ⟨d, due⟩ := asked
      refine ⟨due, fun at_ hdue => ?_⟩
      unfold step?
      dsimp only
      rw [hq, hf]
      dsimp only
      rw [if_pos hdue]
      obtain ⟨call, hstep⟩ := Call.exists_answered hq b.cache (b.store.finish d q).1 at_.now _ _
      exact hmove (b := { b with store := _ }) hstep
  cases hp : w.call.phase with
  | finished | faulted => exact .inl trivial
  | opening => exact .inr (hask _ (by rw [Call.pending?, hp]))
  | following first q => exact .inr (hask q (by rw [Call.pending?, hp]))
  | looking =>
    refine .inr ⟨0, fun at_ _ => ?_⟩
    unfold step?
    rw [Call.pending?, hp]
    dsimp only
    cases hc : w.call.request.cached? b.cache with
    | some pair => exact hmove (.hits at_.now pair hp hc)
    | none => exact hmove (.starts at_.now hp hc)
  | keepingFsid pair =>
    refine .inr ⟨0, fun at_ _ => ?_⟩
    unfold step?
    rw [Call.pending?, hp]
    exact hmove (.keepsFsid pair.1 pair.2 hp)
  | keepingPath pair =>
    refine .inr ⟨0, fun at_ _ => ?_⟩
    unfold step?
    rw [Call.pending?, hp]
    exact hmove (.keepsPath pair.1 pair.2 hp)
  | pausing wake =>
    obtain ⟨-, run, hrun⟩ := hl.of_pausing hp
    refine .inr ⟨wake, fun at_ hwake => ?_⟩
    unfold step?
    rw [Call.pending?, hp]
    dsimp only
    rw [if_pos hwake]
    exact hmove (.resumes wake at_.now run hp hrun hwake)

/-! ## Faults -/

/-- **While the clock does not end, a call that nobody cancels faults only if somebody else was
faster.** -/
theorem Stands.outrun_of_faulted (h : w.Stands old paths good b) (hc : at_.cancelled = false)
    (hs : w.step? draw at_ b = some (w', b', at'))
    (hclock : at_.now + w.call.policy.deadline.nanos < clockEnd) {fault : Fault}
    (hf : w'.call.phase = .faulted fault) : w'.call.Outrun old paths := by
  obtain ⟨m, -, hm, hdoes⟩ := h.does hs
  refine Call.Outrun.of_request ?_ hdoes.request_eq
  cases hdoes with
  | asks q due hq =>
    rw [Call.pending?, hf] at hq
    cases hq
  | moves e call cache he hcancelled hstep hnow =>
    cases hstep with
    | hits => cases hf
    | starts now =>
      obtain rfl := hnow now rfl
      change Call.phaseOf _ (Retry.Run.start _ _).phase = _ at hf
      rw [Retry.Run.start_of_lt hclock] at hf
      cases hf
    | follows | ends | concludes => cases he
    | resumes | keepsFsid | keepsPath => cases hf
    | cancels =>
      rw [hcancelled rfl] at hc
      cases hc
  | hears q now draw call cache hstep =>
    -- An error that is not retried ends the call.
    have hpermanent : ∀ {run e}, w.call.run = some run → e.isRetryable = false →
        (w.call.attemptEnded (.error e) now draw at_.cancelled).phase ≠ .faulted fault := by
      intro run e hrun he hfault
      cases hfault.symm.trans (Call.attemptEnded_of_permanent hrun he now draw at_.cancelled).1
    cases hanswer : (MemoryStore.source.ask q m).1 with
    | ok value =>
      rw [hanswer] at hstep
      rw [hstep.keeps_answer h.sound.plain] at hf
      cases hf
    | error e =>
      have hrefused := hm.refused hanswer
      rw [hanswer] at hstep
      cases hstep with
      | follows => cases hf
      | ends _ _ _ _ hp =>
        obtain ⟨run, hrun⟩ := h.sound.plain.started _ (by rw [Call.pending?, hp])
        obtain ⟨rfl, -⟩ := CacheRequest.refused_opening h.lookup hrefused
        exact absurd hf (hpermanent hrun rfl)
      | concludes first _ _ _ _ _ hp =>
        obtain ⟨run, hrun⟩ := h.sound.plain.started q (by rw [Call.pending?, hp])
        obtain ⟨path, hpath, hnew, rfl, rfl⟩ := h.late.of_following hp
        have hconclude : w.call.request.conclude .notFound (.error e) = .error e := by
          rw [hpath]
          rfl
        dsimp only [Except.map] at hf
        rw [hconclude] at hf
        cases hrefused with
        | taken _ hmem => exact ⟨path, hpath, hnew, hmem⟩
        | full => exact absurd hf (hpermanent hrun rfl)

end Worker

end FsidRegistry

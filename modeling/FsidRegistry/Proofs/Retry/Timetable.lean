import FsidRegistry.Proofs.Retry.Scenario

/-!
# The timetable of a run

A run on a punctual clock is compared with the timetable that its scenario lays down.

* `OnTime`, `Next.onTime`: what a run has come to at each moment, and that every step keeps it.
* `OnTime.finished_or_next`, `Next.weight_lt`: a run never stops before it has finished, and a step
  in which no time passes adds to a bounded weight.
* `run_keeps_timetable`: a run ends with the first attempt that ends it, and it does end.
-/

namespace FsidRegistry.Retry

variable {α : Type}

namespace Scenario

variable {x : Scenario α} {m m' : Moment α} {n k : Nat}

/-! ## What a run has come to -/

/-- What a run has come to whose last attempt was attempt `n`, by the phase in which it is. -/
inductive Stands (x : Scenario α) (n : Nat) (m : Moment α) : Prop
  | attempting (hp : m.timed.run.phase = .attempting) (hb : m.timed.run.backoff = x.backoff n)
      (hdue : m.due = x.endOf n) (hle : m.timed.now ≤ x.endOf n)
  | pausing (e : StoreError) (hp : m.timed.run.phase = .pausing (x.startOf (n + 1)))
      (hb : m.timed.run.backoff = x.backoff (n + 1)) (hf : x.Fails n e)
      (hd : x.startOf (n + 1) < x.deadline) (hle : m.timed.now ≤ x.startOf (n + 1))
      (hc : m.timed.cancelled = true → x.cancelledAt = some m.timed.now)
  | finished (result : Except Error α) (hp : m.timed.run.phase = .finished result)
      (hr : x.Ends n result) (hle : m.timed.now ≤ x.startOf (n + 1))

/-- A run is on time: it has made `n + 1` attempts, of which it went on after all but the last, and
its token is set when the scenario says so. -/
structure OnTime (x : Scenario α) (n : Nat) (m : Moment α) : Prop where
  calls : m.calls = (List.range (n + 1)).map x.startOf
  attempts : m.timed.run.attempts = .ofNat (n + 1)
  deadline : m.timed.run.deadline = x.deadline
  made : ∀ i < n, x.GoesOn i
  set : m.timed.cancelled = true → ∃ t, x.cancelledAt = some t ∧ t ≤ m.timed.now
  unset : m.timed.cancelled = false → ∀ t, x.cancelledAt = some t → m.timed.now ≤ t
  stands : x.Stands n m

theorem OnTime.length_calls (h : x.OnTime n m) : m.calls.length = n + 1 := by
  rw [h.calls, List.length_map, List.length_range]

theorem OnTime.now_le (h : x.OnTime n m) : m.timed.now ≤ x.startOf (n + 1) := by
  cases h.stands with
  | attempting _ _ _ hle => exact Nat.le_trans hle (x.endOf_le_startOf n)
  | pausing _ _ _ _ _ hle _ => exact hle
  | finished _ _ _ hle => exact hle

theorem run_started (hx : x.Fits) :
    x.started.run = ⟨x.deadline, x.policy.backoff, 1, .attempting⟩ := by
  rw [started, Run.start, Instant.after_of_lt hx.deadline]
  rfl

/-- The first attempt is made whatever the deadline and the token are. -/
theorem phase_started (hx : x.Fits) : x.started.run.phase = .attempting := by
  rw [run_started hx]

theorem onTime_first (hx : x.Fits) : x.OnTime 0 x.first := by
  have hrun := run_started hx
  have hphase := phase_started hx
  refine ⟨?_, congrArg Run.attempts hrun, congrArg Run.deadline hrun,
    fun i hi => absurd hi (Nat.not_lt_zero i), fun hc => ?_, fun hc t ht => ?_,
    .attempting hphase (congrArg Run.backoff hrun) rfl (Nat.le_add_right _ _)⟩
  · exact TimedRun.calls_of_attempting hphase
  · obtain ⟨t, ht, hlt⟩ := (Option.any_eq_true _ _).mp hc
    exact ⟨t, ht, Nat.le_of_lt (of_decide_eq_true hlt)⟩
  · have hlt : ¬ t < x.start := by simpa [first, started, ht] using hc
    exact Nat.not_lt.mp hlt

/-- A run that finishes has made its last attempt. -/
theorem OnTime.finishes (h : x.OnTime n m) {result : Except Error α} (hr : x.Ends n result) :
    x.OnTime n { m with
      timed := { m.timed with run := { m.timed.run with phase := .finished result } } } :=
  { h with stands := .finished result rfl hr h.now_le }

/-- The end of the attempt at work. -/
theorem OnTime.ends (hx : x.Fits) (h : x.OnTime n m) (hp : m.timed.run.phase = .attempting)
    (hnow : m.timed.now = m.due) :
    let r := m.timed.run.attemptEnded (x.outcome n) m.timed.now (x.draw n) m.timed.cancelled
    x.OnTime n { m with timed := { m.timed with run := r } } := by
  cases h.stands with
  | pausing _ hp' => rw [hp] at hp'; cases hp'
  | finished _ hp' => rw [hp] at hp'; cases hp'
  | attempting _ hb hdue hle =>
    have hend : m.timed.now = x.endOf n := hnow.trans hdue
    have hset : m.timed.cancelled = true → ∃ t, x.cancelledAt = some t ∧ t ≤ x.startOf (n + 1) := by
      intro hc
      obtain ⟨t, ht, hle⟩ := h.set hc
      exact ⟨t, ht, Nat.le_trans hle h.now_le⟩
    rcases hx.verdict_cases h.made hset with ⟨result, hr, hv⟩ | ⟨e, hf, hd, hc, hv⟩
    · rw [← h.deadline, ← hb, ← hend] at hv
      rw [Run.attemptEnded_of_finished hv]
      exact h.finishes hr
    · rw [← h.deadline, ← hb, ← hend] at hv
      rw [Run.attemptEnded_of_pause hv]
      exact { h with
        stands := .pausing e rfl rfl hf hd h.now_le fun hc' => by
          rw [hc] at hc'
          cases hc' }

/-- Time passes, no further than to what is due. -/
theorem OnTime.waits (h : x.OnTime n m) {nanos : Nat} {limit : Instant}
    (hq : m.quietUntil? = some limit) (hl : m.timed.now + nanos ≤ limit)
    (ht : m.timed.cancelled = false → ∀ t, x.cancelledAt = some t → m.timed.now + nanos ≤ t) :
    x.OnTime n { m with timed := { m.timed with now := m.timed.now + nanos } } := by
  refine { h with set := fun hc => ?_, unset := ht, stands := ?_ }
  · obtain ⟨t, hat, hle⟩ := h.set hc
    exact ⟨t, hat, Nat.le_trans hle (Nat.le_add_right _ _)⟩
  · cases h.stands with
    | attempting hp hb hdue hle =>
      rw [Moment.quietUntil?, hp] at hq
      obtain rfl := Option.some.inj hq
      exact .attempting hp hb hdue (hdue ▸ hl)
    | pausing e hp hb hf hd hle hc =>
      rw [Moment.quietUntil?, hp] at hq
      obtain ⟨hset, hwake⟩ := Option.ite_none_left_eq_some.mp hq
      obtain rfl := Option.some.inj hwake
      exact .pausing e hp hb hf hd hl fun hc' => absurd hc' hset
    | finished result hp hr hle =>
      rw [Moment.quietUntil?, hp] at hq
      cases hq

/-- The token is set, at its time. -/
theorem OnTime.cancels (h : x.OnTime n m) (ht : x.cancelledAt = some m.timed.now) :
    x.OnTime n { m with timed := { m.timed with cancelled := true } } := by
  refine { h with set := fun _ => ⟨_, ht, Nat.le_refl _⟩, unset := by rintro ⟨⟩, stands := ?_ }
  cases h.stands with
  | attempting hp hb hdue hle => exact .attempting hp hb hdue hle
  | pausing e hp hb hf hd hle _ => exact .pausing e hp hb hf hd hle fun _ => ht
  | finished result hp hr hle => exact .finished result hp hr hle

/-- The pause is over, and the next attempt is made. -/
theorem OnTime.fires (h : x.OnTime n m) {wake : Instant} (hp : m.timed.run.phase = .pausing wake)
    (hw : wake ≤ m.timed.now) :
    let p := { m.timed with run := m.timed.run.resume }
    x.OnTime (n + 1) ⟨p, m.calls ++ p.calls, p.now + x.takes m.calls.length⟩ := by
  cases h.stands with
  | attempting hp' => rw [hp] at hp'; cases hp'
  | finished _ hp' => rw [hp] at hp'; cases hp'
  | pausing e hp' hb hf hd hle hc =>
    rw [hp] at hp'
    injection hp' with hwake
    have hnow : m.timed.now = x.startOf (n + 1) := Nat.le_antisymm hle (hwake ▸ hw)
    -- A token that is set by now was set this very instant: no time passes in a pause after it.
    have huncancelled : ∀ t, x.cancelledAt = some t → x.startOf (n + 1) ≤ t := by
      intro t ht
      rw [← hnow]
      cases hset : m.timed.cancelled with
      | false => exact h.unset hset t ht
      | true => exact Nat.le_of_eq (Option.some.inj ((hc hset).symm.trans ht))
    have hgoes : x.GoesOn n := ⟨⟨e, hf⟩, hd, huncancelled⟩
    refine { h with
      calls := ?_, attempts := (congrArg (· + 1) h.attempts).trans (count_succ _), made := fun i hi => ?_,
      stands := .attempting rfl hb ?_ ?_ }
    · rw [TimedRun.calls_of_attempting rfl, h.calls, hnow, List.range_succ (n := n + 1),
        List.map_append]
      rfl
    · rcases Nat.lt_or_eq_of_le (Nat.le_of_lt_succ hi) with hi | rfl
      · exact h.made i hi
      · exact hgoes
    · show m.timed.now + x.takes m.calls.length = x.endOf (n + 1)
      rw [hnow, h.length_calls]
      rfl
    · show m.timed.now ≤ x.endOf (n + 1)
      rw [hnow]
      exact x.startOf_le_endOf (n + 1)

/-- The pause is cut short. -/
theorem OnTime.sees (h : x.OnTime n m) {wake : Instant} (hp : m.timed.run.phase = .pausing wake)
    (hset : m.timed.cancelled = true) :
    x.OnTime n { m with timed := { m.timed with run := m.timed.run.cancel } } := by
  cases h.stands with
  | attempting hp' => rw [hp] at hp'; cases hp'
  | finished _ hp' => rw [hp] at hp'; cases hp'
  | pausing e hp' hb hf hd hle hc => exact h.finishes (.isCancelled e _ hf hd (hc hset) hle)

/-- **Every step keeps a run on time**: it stays with its last attempt or makes the next one. -/
theorem Next.onTime (hx : x.Fits) (h : x.OnTime n m) (hn : x.Next m m') :
    x.OnTime n m' ∨ x.OnTime (n + 1) m' := by
  cases hn with
  | waits nanos limit p hpos hq hl ht hstep =>
    cases TimedRun.step?_eq_some_iff.mp hstep with
    | timePasses => exact Or.inl (h.waits hq hl ht)
  | cancels p hc ht hstep =>
    cases TimedRun.step?_eq_some_iff.mp hstep with
    | tokenCancelled => exact Or.inl (h.cancels ht)
  | ends n' p hcalls hnow hstep =>
    obtain rfl : n' = n := Nat.succ.inj (hcalls.symm.trans h.length_calls)
    cases TimedRun.step?_eq_some_iff.mp hstep with
    | attemptEnds _ _ hp => exact Or.inl (h.ends hx hp hnow)
  | fires p hstep =>
    cases TimedRun.step?_eq_some_iff.mp hstep with
    | timerFires wake hp hw => exact Or.inr (h.fires hp hw)
  | sees p hstep =>
    cases TimedRun.step?_eq_some_iff.mp hstep with
    | cancellationSeen wake hp hset => exact Or.inl (h.sees hp hset)

theorem After.onTime (hx : x.Fits) (h : x.After k m) : ∃ n, x.OnTime n m := by
  induction h with
  | first => exact ⟨0, onTime_first hx⟩
  | next k m m' _ hn ih =>
    obtain ⟨n, hm⟩ := ih
    rcases hn.onTime hx hm with hm' | hm'
    · exact ⟨n, hm'⟩
    · exact ⟨n + 1, hm'⟩

/-! ## Runs end -/

/-- Where time may pass, an instant passes unless the token is to be set in it. -/
theorem OnTime.exists_next_of_quiet (h : x.OnTime n m) {limit : Instant}
    (hq : m.quietUntil? = some limit) (hlt : m.timed.now < limit) : ∃ m', x.Next m m' := by
  by_cases htoken : m.timed.cancelled = false ∧ x.cancelledAt = some m.timed.now
  · exact ⟨_, .cancels _ htoken.1 htoken.2 rfl⟩
  · refine ⟨_, .waits 1 limit _ Nat.one_pos hq hlt (fun hc t ht => ?_) rfl⟩
    refine Nat.lt_of_le_of_ne (h.unset hc t ht) fun he => htoken ⟨hc, ?_⟩
    rw [ht, ← he]

/-- Something can happen until the run has finished. -/
theorem OnTime.finished_or_next (h : x.OnTime n m) :
    (∃ result, m.timed.run.phase = .finished result) ∨ ∃ m', x.Next m m' := by
  cases h.stands with
  | finished result hp => exact Or.inl ⟨result, hp⟩
  | attempting hp hb hdue hle =>
    refine Or.inr ?_
    rcases Nat.lt_or_eq_of_le (hdue ▸ hle : m.timed.now ≤ m.due) with hlt | hnow
    · exact h.exists_next_of_quiet (by rw [Moment.quietUntil?, hp]) hlt
    · exact ⟨_, .ends n _ h.length_calls hnow
        (TimedRun.step?_eq_some_iff.mpr (.attemptEnds _ _ hp))⟩
  | pausing e hp hb hf hd hle hc =>
    refine Or.inr ?_
    by_cases hset : m.timed.cancelled = true
    · exact ⟨_, .sees _ (TimedRun.step?_eq_some_iff.mpr (.cancellationSeen _ hp hset))⟩
    · rcases Nat.lt_or_eq_of_le hle with hlt | hnow
      · refine h.exists_next_of_quiet ?_ hlt
        rw [Moment.quietUntil?, hp]
        exact if_neg hset
      · have hwake : x.startOf (n + 1) ≤ m.timed.now := Nat.le_of_eq hnow.symm
        exact ⟨_, .fires _ (TimedRun.step?_eq_some_iff.mpr (.timerFires _ hp hwake))⟩

end Scenario

/-- How far a run has come since its last attempt began. -/
def Phase.rank : Phase α → Nat
  | .attempting => 0
  | .pausing _ => 1
  | .finished _ => 2
  | .faulted _ => 2

/-- What every step in which no time passes adds to. -/
def Moment.weight (m : Moment α) : Nat :=
  2 * m.calls.length + m.timed.cancelled.toNat + m.timed.run.phase.rank

theorem Run.rank_attemptEnded (r : Run α) (outcome : Except StoreError α) (now : Instant)
    (draw : Nat) (cancelled : Bool) :
    0 < (r.attemptEnded outcome now draw cancelled).phase.rank := by
  rw [attemptEnded]
  split <;> simp [Phase.rank]

namespace Scenario

variable {x : Scenario α} {m m' : Moment α} {n k : Nat}

/-- A step takes time, or it adds to the weight. -/
theorem Next.weight_lt (hn : x.Next m m') :
    m.timed.now + m.weight < m'.timed.now + m'.weight := by
  cases hn with
  | waits nanos limit p hpos hq hl ht hstep =>
    cases TimedRun.step?_eq_some_iff.mp hstep with
    | timePasses => exact Nat.add_lt_add_right (Nat.lt_add_of_pos_right hpos) m.weight
  | cancels p hc ht hstep =>
    cases TimedRun.step?_eq_some_iff.mp hstep with
    | tokenCancelled => simp [Moment.weight, hc]
  | ends n' p hcalls hnow hstep =>
    cases TimedRun.step?_eq_some_iff.mp hstep with
    | attemptEnds outcome draw hp =>
      have hbefore : m.timed.run.phase.rank = 0 := congrArg Phase.rank hp
      have hafter := m.timed.run.rank_attemptEnded (x.outcome n') m.timed.now (x.draw n')
        m.timed.cancelled
      simp only [Moment.weight]
      lia
  | fires p hstep =>
    cases TimedRun.step?_eq_some_iff.mp hstep with
    | timerFires wake hp hw =>
      have hbefore : m.timed.run.phase.rank = 1 := congrArg Phase.rank hp
      simp only [Moment.weight, Run.resume, Phase.rank, TimedRun.calls, List.length_append,
        List.length_singleton]
      lia
  | sees p hstep =>
    cases TimedRun.step?_eq_some_iff.mp hstep with
    | cancellationSeen wake hp hset =>
      have hbefore : m.timed.run.phase.rank = 1 := congrArg Phase.rank hp
      simp only [Moment.weight, Run.cancel, Phase.rank]
      lia

theorem After.steps_le (h : x.After k m) : k + x.start ≤ m.timed.now + m.weight := by
  induction h with
  | first => exact Nat.le_trans (Nat.le_of_eq (Nat.zero_add _)) (Nat.le_add_right _ _)
  | next k m m' _ hn ih =>
    have hlt := hn.weight_lt
    lia

/-- How many steps there are at most until the run has finished that ends with attempt `n`. -/
def longest (x : Scenario α) (n : Nat) : Nat := x.startOf (n + 1) - x.start + 2 * n + 5

theorem OnTime.weight_le (h : x.OnTime n m) : m.weight ≤ 2 * n + 5 := by
  have hrank : m.timed.run.phase.rank ≤ 2 := by cases m.timed.run.phase <;> simp [Phase.rank]
  have hcancelled := m.timed.cancelled.toNat_le
  rw [Moment.weight, h.length_calls]
  omega

theorem OnTime.steps_le (h : x.OnTime n m) (hk : x.After k m) : k ≤ x.longest n := by
  have hstart : x.start ≤ x.startOf (n + 1) := x.startOf_mono (Nat.zero_le _)
  have hnow := h.now_le
  have hweight := h.weight_le
  have hle := hk.steps_le
  rw [longest]
  lia

theorem longest_mono (x : Scenario α) {m n : Nat} (h : m ≤ n) : x.longest m ≤ x.longest n := by
  have := x.startOf_mono (Nat.add_le_add_right h 1)
  rw [longest, longest]
  lia

end Scenario

end FsidRegistry.Retry

import FsidRegistry.Proofs.Retry.Timetable

/-!
# The budget of a run

Pauses may be drawn as zero for ever, so it is the attempts themselves that use up the time of a
run.  If each of them takes at least `d`, then only as many of them begin before the deadline as there
are steps of length `d` in the time allowed.

* `Scenario.mul_le_startOf`: how late an attempt starts at least.
* `run_keeps_budget`: how many attempts a run makes at most, when they start, and that it ends.
-/

namespace FsidRegistry.Retry.Scenario

variable {α : Type} {x : Scenario α} {m : Moment α} {n d : Nat}

/-- How long the run may keep retrying. -/
def allowed (x : Scenario α) : Nat := x.policy.deadline.nanos

/-- How many attempts of length `d` there are at most: as many as begin within the time allowed, but
at least one. -/
def budget (x : Scenario α) (d : Nat) : Nat := max 1 ((x.allowed + d - 1) / d)

theorem mul_le_startOf (htakes : ∀ n, d ≤ x.takes n) (n : Nat) : x.start + n * d ≤ x.startOf n := by
  induction n with
  | zero => exact Nat.le_of_eq (by rw [Nat.zero_mul]; rfl)
  | succ n ih =>
    calc x.start + (n + 1) * d = x.start + n * d + d := by rw [Nat.succ_mul, Nat.add_assoc]
      _ ≤ x.startOf n + x.takes n := Nat.add_le_add ih (htakes n)
      _ ≤ x.startOf (n + 1) := x.endOf_le_startOf n

/-- An attempt that starts within the time allowed is within the budget. -/
theorem succ_le_budget (hd : 0 < d) (htakes : ∀ n, d ≤ x.takes n) (h : x.startOf n < x.deadline) :
    n + 1 ≤ x.budget d := by
  have hlt : x.start + n * d < x.start + x.allowed := Nat.lt_of_le_of_lt (mul_le_startOf htakes n) h
  have hmul : n * d < x.allowed := Nat.lt_of_add_lt_add_left hlt
  refine Nat.le_trans ((Nat.le_div_iff_mul_le hd).mpr ?_) (Nat.le_max_right _ _)
  rw [Nat.succ_mul]
  omega

theorem OnTime.succ_le_budget (h : x.OnTime n m) (hd : 0 < d) (htakes : ∀ n, d ≤ x.takes n) :
    n + 1 ≤ x.budget d := by
  cases n with
  | zero => exact Nat.le_max_left _ _
  | succ n => exact Scenario.succ_le_budget hd htakes (h.made n (Nat.lt_succ_self n)).early

/-- The calls of a run: the first one, and the later ones within the time allowed. -/
theorem OnTime.calls_eq_cons (h : x.OnTime n m) :
    ∃ later, m.calls = x.start :: later ∧ ∀ t ∈ later, t < x.start + x.allowed := by
  refine ⟨(List.range n).map fun i => x.startOf (i + 1), ?_, fun t ht => ?_⟩
  · rw [h.calls, List.range_succ_eq_map, List.map_cons, List.map_map]
    rfl
  · obtain ⟨i, hi, rfl⟩ := List.mem_map.mp ht
    exact (h.made i (List.mem_range.mp hi)).early

/-- **A run keeps its budget**: if every attempt takes at least `d`, the first attempt is made
whatever the deadline and the token are, every later one starts within the time allowed, there are no
more of them than the budget allows, and the run ends. -/
theorem run_keeps_budget (hx : x.Fits) (hd : 0 < d) (htakes : ∀ n, d ≤ x.takes n) :
    x.first.timed.run.phase = .attempting ∧ x.first.calls = [x.start] ∧
    ∀ k m, x.After k m →
      (∃ later, m.calls = x.start :: later ∧ ∀ t ∈ later, t < x.start + x.allowed) ∧
      m.calls.length ≤ x.budget d ∧ m.timed.run.attempts = .ofNat m.calls.length ∧
      ((∃ result, m.timed.run.phase = .finished result) ∨ ∃ m', x.Next m m') ∧
      k ≤ x.longest (x.budget d - 1) := by
  have hfirst : x.first.timed.run.phase = .attempting := phase_started hx
  refine ⟨hfirst, TimedRun.calls_of_attempting hfirst, fun k m hk => ?_⟩
  obtain ⟨n, hm⟩ := hk.onTime hx
  have hn : n + 1 ≤ x.budget d := hm.succ_le_budget hd htakes
  refine ⟨hm.calls_eq_cons, ?_, ?_, hm.finished_or_next, ?_⟩
  · rw [hm.length_calls]
    exact hn
  · rw [hm.length_calls]
    exact hm.attempts
  · exact Nat.le_trans (hm.steps_le hk) (x.longest_mono (Nat.le_sub_of_add_le hn))

/-- A store that is never available, without pauses. -/
def outage : Scenario Nat where
  policy := { deadline := .ofNanos 100 }
  start := 5
  takes _ := 40
  outcome _ := .error (.unavailable "down")
  draw _ := 0
  cancelledAt := none

theorem outage_goesOn_lt {i : Nat} (h : ∀ i' < i, outage.GoesOn i') : i < 3 := by
  refine Nat.lt_of_not_le fun hle => ?_
  have hearly : outage.startOf 3 < outage.deadline := (h 2 hle).early
  revert hearly
  decide +kernel

theorem outage_fits : outage.Fits where
  deadline := by decide
  grows
    | 0, _, _, _ => by decide +kernel
    | 1, _, _, _ => by decide +kernel
    | 2, _, _, _ => by decide +kernel
    | n + 3, _, h, _ => absurd (outage_goesOn_lt h) (Nat.not_lt.mpr (Nat.le_add_left 3 n))
  wakes
    | 0, _, _, _ => by decide +kernel
    | 1, _, _, _ => by decide +kernel
    | 2, _, _, _ => by decide +kernel
    | n + 3, _, h, _ => absurd (outage_goesOn_lt h) (Nat.not_lt.mpr (Nat.le_add_left 3 n))

/-- A hundred nanoseconds are enough for three attempts of 40. -/
theorem run_keeps_budget_of_outage :
    outage.Fits ∧ 0 < 40 ∧ (∀ n, 40 ≤ outage.takes n) ∧
    ∀ k m, outage.After k m → (∀ t ∈ m.calls.tail, t < 105) ∧ m.calls.length ≤ 3 ∧ k ≤ 129 := by
  have htakes : ∀ n, 40 ≤ outage.takes n := fun _ => Nat.le_refl 40
  refine ⟨outage_fits, by decide, htakes, fun k m hk => ?_⟩
  obtain ⟨⟨later, hcalls, hlater⟩, hlength, -, -, hlong⟩ :=
    (run_keeps_budget outage_fits (by decide) htakes).2.2 k m hk
  refine ⟨fun t ht => ?_, Nat.le_trans hlength (by decide +kernel),
    Nat.le_trans hlong (by decide +kernel)⟩
  rw [hcalls] at ht
  exact hlater t ht

end FsidRegistry.Retry.Scenario

import FsidRegistry.Proofs.Binary64.Seconds

/-!
# Durations that are not shortened

A factor of at least `1` can make a duration shorter: its number of seconds is rounded before it is
multiplied, and from `2 ^ 23` seconds on a nanosecond is less than the last place.  This file says that
it takes both, a duration as long as that and a factor of exactly `1`.

* `Duration.two_mul_nanos_lt`: below `2 ^ 23` seconds the roundings lose less than half a nanosecond.
* `Duration.exists_units_eq`: beyond, what they lose is made good by one unit in the last place.
* `Duration.lasts_of_lt`, `Duration.lasts_of_exceedsOne`: the durations and the factors that are safe.
-/

namespace FsidRegistry

namespace Binary64

/-- A number of 53 bits that is larger than `1`, or infinity. -/
inductive ExceedsOne : Binary64 → Prop
  | finite (m : Nat) (e : Int) (hm : m < 2 ^ 53) (h : (ratio m e).2 < (ratio m e).1) :
    ExceedsOne (.finite false m e)
  | infinite : ExceedsOne (.infinite false)

theorem atLeastOne_of_exceedsOne {x : Binary64} (h : x.ExceedsOne) : x.atLeastOne = x := by
  cases h with
  | infinite => rfl
  | finite m e hm h =>
    have hbelow : (Binary64.finite false m e).isBelowOne = false := by
      simp only [isBelowOne, Bool.false_or, decide_eq_false_iff_not]
      exact Nat.not_lt.mpr (Nat.le_of_lt h)
    simp [atLeastOne, hbelow]

/-- What `atLeastOne` gives is at least `1`. -/
theorem le_of_atLeastOne_eq {x : Binary64} {negative : Bool} {m : Nat} {e : Int}
    (h : x.atLeastOne = .finite negative m e) : (ratio m e).2 ≤ (ratio m e).1 := by
  rw [atLeastOne] at h
  split at h
  · have hone : one = .finite false (2 ^ 52) (-52) := by decide +kernel
    rw [hone] at h
    cases h
    decide +kernel
  · rename_i hx
    subst h
    simp only [isBelowOne, Bool.or_eq_true, decide_eq_true_eq, not_or] at hx
    exact Nat.le_of_not_lt hx.2.2

/-- The next number after `1` is larger by `2 ^ -52`, so a factor larger than `1` adds a unit in the
last place. -/
theorem succ_mul_le_of_lt_ratio {m n : Nat} {e : Int} (hm : m < 2 ^ 53)
    (h : (ratio m e).2 < (ratio m e).1) (hn : 2 ^ 52 ≤ n) :
    (n + 1) * (ratio m e).2 ≤ (ratio m e).1 * n := by
  have hden : (ratio m e).2 ≤ 2 ^ 52 := by
    simp only [ratio, powerOfTwo] at h ⊢
    split
    · exact Nat.one_le_two_pow
    · rw [if_neg ‹_›] at h
      simp only [Nat.pow_eq, Nat.mul_one] at h ⊢
      have hlt := (Nat.pow_lt_pow_iff_right Nat.one_lt_two).mp (Nat.lt_trans h hm)
      exact Nat.pow_le_pow_right Nat.two_pos (Nat.le_of_lt_succ hlt)
  calc (n + 1) * (ratio m e).2 = n * (ratio m e).2 + (ratio m e).2 := Nat.succ_mul _ _
    _ ≤ n * (ratio m e).2 + n := Nat.add_le_add_left (Nat.le_trans hden hn) _
    _ = ((ratio m e).2 + 1) * n := by ring
    _ ≤ (ratio m e).1 * n := Nat.mul_le_mul_right n h

/-- Whole numbers of 53 bits are exact at every place. -/
theorem rounded_mul_two_pow {m : Nat} (hm : 2 ^ 52 ≤ m) (hm' : m ≤ 2 ^ 53) (p : Nat) :
    rounded (m * 2 ^ p) unitsPerOne = m * 2 ^ p := by
  rcases Nat.lt_or_eq_of_le hm' with hlt | rfl
  · exact rounded_add (r := 0) (Or.inr hm) hlt (Nat.two_pow_pos p)
  · have hcarry : 2 ^ 53 * 2 ^ p = 2 ^ 52 * 2 ^ (p + 1) := by ring
    rw [hcarry]
    exact rounded_add (r := 0) (Or.inr (Nat.le_refl _)) (by decide) (Nat.two_pow_pos _)

end Binary64

namespace Duration

open Binary64

/-! ## What the roundings lose -/

/-- The last place of the largest fractions. -/
def fractionPlace : Nat := 2 ^ (onesPlace - 53)

theorem fractionPlace_pos : 0 < fractionPlace := Nat.two_pow_pos _

theorem two_pow_mul_fractionPlace {k : Nat} (h : k ≤ 53) :
    2 ^ k * fractionPlace = 2 ^ (onesPlace - (53 - k)) := by
  have hones := onesPlace_eq
  have hsum : k + (onesPlace - 53) = onesPlace - (53 - k) := by omega
  rw [fractionPlace, ← Nat.pow_add, hsum]

theorem two_pow_mul_fractionPlace_eq : 2 ^ 53 * fractionPlace = unitsPerOne :=
  two_pow_mul_fractionPlace (Nat.le_refl 53)

theorem two_mul_subsecondNanos_le (d : Duration) :
    2 * (d.subsecondNanos * unitsPerOne) ≤
      nanosPerSecond * (2 * rounded d.subsecondNanos nanosPerSecond + fractionPlace) := by
  refine two_mul_le_rounded_add_of_lt nanosPerSecond_pos ?_
  rw [Nat.pow_add, Nat.mul_comm (2 ^ _)]
  show _ < nanosPerSecond * (2 ^ 53 * fractionPlace)
  rw [two_pow_mul_fractionPlace_eq]
  exact Nat.mul_lt_mul_of_pos_right d.subsecondNanos_lt unitsPerOne_pos

theorem nanos_mul_unitsPerOne (d : Duration) : d.nanos * unitsPerOne =
    nanosPerSecond * (d.seconds * unitsPerOne) + d.subsecondNanos * unitsPerOne := by
  rw [← Nat.mul_assoc, ← Nat.add_mul]
  exact congrArg (· * unitsPerOne) (Nat.div_add_mod d.nanos nanosPerSecond).symm

/-- Below `2 ^ 23` seconds the roundings lose less than half a nanosecond. -/
theorem two_mul_nanos_lt (d : Duration) (h : d.seconds < 2 ^ 23) :
    2 * (d.nanos * unitsPerOne) < 2 * (d.units * nanosPerSecond) + unitsPerOne := by
  have hfraction := d.two_mul_subsecondNanos_le
  have hlt := d.rounded_subsecondNanos_lt
  have hunits : d.units =
      rounded (d.seconds * unitsPerOne + rounded d.subsecondNanos nanosPerSecond) unitsPerOne := by
    rw [units, rounded_of_lt (Nat.lt_trans h (by decide))]
  generalize rounded d.subsecondNanos nanosPerSecond = r at *
  -- The last place of the sum is that of numbers of 23 bits.
  have hsum : 2 * (d.seconds * unitsPerOne + r) ≤ 2 * d.units + 2 ^ (onesPlace - 30) := by
    rw [hunits]
    refine two_mul_le_rounded_units_add ?_
    have hplace : onesPlace - 30 + 53 = 23 + onesPlace := by
      have hones := onesPlace_eq
      omega
    rw [hplace, ← two_pow_mul_unitsPerOne]
    calc d.seconds * unitsPerOne + r < (d.seconds + 1) * unitsPerOne := by
          rw [Nat.succ_mul]
          omega
      _ ≤ 2 ^ 23 * unitsPerOne := Nat.mul_le_mul_right _ h
  rw [← two_pow_mul_fractionPlace (k := 23) (by decide)] at hsum
  have hnanos := d.nanos_mul_unitsPerOne
  have hpos := fractionPlace_pos
  have hones := two_pow_mul_fractionPlace_eq
  unfold nanosPerSecond at *
  omega

theorem onesPlace_add_le {k p : Nat} (h : 2 ^ k * unitsPerOne < 2 ^ (p + 53)) :
    k + onesPlace ≤ p + 52 := by
  rw [two_pow_mul_unitsPerOne] at h
  have := (Nat.pow_lt_pow_iff_right Nat.one_lt_two).mp h
  omega

/-- Where the seconds are exact, half of the last place is lost, and some of the fraction. -/
theorem exists_units_eq_of_lt (d : Duration) (h : 2 ^ 23 ≤ d.seconds) (hs : d.seconds < 2 ^ 53) :
    ∃ m p, d.units = m * 2 ^ p ∧ 2 ^ 52 ≤ m ∧ m < 2 ^ 53 ∧
      d.nanos * unitsPerOne ≤ (m + 1) * 2 ^ p * nanosPerSecond := by
  have hunits : d.units =
      rounded (d.seconds * unitsPerOne + rounded d.subsecondNanos nanosPerSecond) unitsPerOne := by
    rw [units, rounded_of_lt hs]
  have hfraction := d.two_mul_subsecondNanos_le
  generalize rounded d.subsecondNanos nanosPerSecond = r at *
  have hlow : 2 ^ 23 * unitsPerOne ≤ d.seconds * unitsPerOne + r :=
    Nat.le_trans (Nat.mul_le_mul_right _ h) (Nat.le_add_right _ r)
  have hpos : 0 < d.seconds * unitsPerOne + r :=
    Nat.lt_of_lt_of_le (Nat.mul_pos (Nat.two_pow_pos 23) unitsPerOne_pos) hlow
  obtain ⟨m, p, heq, hm, hm', hbits⟩ := exists_rounded_eq hpos unitsPerOne_pos
  rw [← hunits] at heq
  have hlt : d.seconds * unitsPerOne + r < 2 ^ (p + 53) := by
    rw [Nat.mul_comm] at hbits
    exact Nat.lt_of_mul_lt_mul_left hbits
  have hones := onesPlace_eq
  have hp : 23 + onesPlace ≤ p + 52 := onesPlace_add_le (Nat.lt_of_le_of_lt hlow hlt)
  have hplace : fractionPlace ≤ 2 ^ p := Nat.pow_le_pow_right Nat.two_pos (by omega)
  have hsum := two_mul_le_rounded_units_add hlt
  rw [← hunits, heq] at hsum
  refine ⟨m, p, heq, hm.resolve_left (by omega), hm', ?_⟩
  rw [d.nanos_mul_unitsPerOne, Nat.succ_mul]
  unfold nanosPerSecond at *
  omega

/-- Beyond, the fraction is rounded away, and a second is half of the last place at most. -/
theorem exists_units_eq_of_le (d : Duration) (hs : 2 ^ 53 ≤ d.seconds) :
    ∃ m p, d.units = m * 2 ^ p ∧ 2 ^ 52 ≤ m ∧ m < 2 ^ 53 ∧
      d.nanos * unitsPerOne ≤ (m + 1) * 2 ^ p * nanosPerSecond := by
  have hunits : d.units = rounded d.seconds 1 :=
    rounded_seconds_add_eq hs d.rounded_subsecondNanos_lt
  have hpos : 0 < d.seconds := Nat.lt_of_lt_of_le (Nat.two_pow_pos 53) hs
  obtain ⟨m, p, heq, hm, hm', hbits⟩ := exists_rounded_eq hpos Nat.one_pos
  have hround := two_mul_le_rounded_add_of_lt Nat.one_pos hbits
  rw [heq, Nat.one_mul] at hround
  have hones := onesPlace_eq
  have hp : 53 + onesPlace ≤ p + 52 := by
    refine onesPlace_add_le (Nat.lt_of_le_of_lt (Nat.mul_le_mul_right _ hs) ?_)
    rw [← Nat.one_mul (2 ^ (p + 53))]
    exact hbits
  have htwo : 2 * unitsPerOne ≤ 2 ^ p := by
    rw [Nat.mul_comm, unitsPerOne, ← Nat.pow_succ]
    exact Nat.pow_le_pow_right Nat.two_pos (by omega)
  have hfraction : d.subsecondNanos * unitsPerOne ≤ nanosPerSecond * unitsPerOne :=
    Nat.mul_le_mul_right _ (Nat.le_of_lt d.subsecondNanos_lt)
  refine ⟨m, p, hunits.trans heq, hm.resolve_left (by omega), hm', ?_⟩
  rw [d.nanos_mul_unitsPerOne, Nat.succ_mul]
  unfold nanosPerSecond at *
  omega

/-- From `2 ^ 23` seconds on the roundings lose one unit in the last place at most. -/
theorem exists_units_eq (d : Duration) (h : 2 ^ 23 ≤ d.seconds) :
    ∃ m p, d.units = m * 2 ^ p ∧ 2 ^ 52 ≤ m ∧ m < 2 ^ 53 ∧
      d.nanos * unitsPerOne ≤ (m + 1) * 2 ^ p * nanosPerSecond := by
  rcases Nat.lt_or_ge d.seconds (2 ^ 53) with hs | hs
  · exact d.exists_units_eq_of_lt h hs
  · exact d.exists_units_eq_of_le hs

/-! ## Factors that do not shorten a duration -/

/-- A duration does not become shorter when it is multiplied by the factor, if it can be. -/
def Lasts (d : Duration) (factor : Binary64) : Prop :=
  ∀ product, d.scale factor = .ok product → d.nanos ≤ product.nanos

instance (d : Duration) (factor : Binary64) : Decidable (d.Lasts factor) :=
  match h : d.scale factor with
  | .error _ => isTrue fun product hp => by rw [h] at hp; cases hp
  | .ok product => decidable_of_iff (d.nanos ≤ product.nanos) ⟨
      fun hle product' hp => by rw [h] at hp; cases hp; exact hle,
      fun hl => hl product h⟩

/-- A number of double precision is a lower bound of a product if it is one before the rounding. -/
theorem le_scaledUnits {d : Duration} {m u : Nat} {e : Int} (hu : rounded u unitsPerOne = u)
    (h : u * (ratio m e).2 ≤ (ratio m e).1 * d.units) : u ≤ d.scaledUnits m e := by
  have hpos : 0 < (ratio m e).2 * unitsPerOne := Nat.mul_pos (powerOfTwo_pos e).2 unitsPerOne_pos
  rw [← hu]
  refine rounded_mono unitsPerOne_pos hpos ?_
  rw [← Nat.mul_assoc]
  exact Nat.mul_le_mul_right _ h

/-- **Durations below `2 ^ 23` seconds are safe**: no factor that is made at least `1` shortens them. -/
theorem lasts_of_lt {d : Duration} (h : d.seconds < 2 ^ 23) (x : Binary64) :
    d.Lasts x.atLeastOne := by
  intro product hp
  obtain ⟨m, e, hx⟩ := exists_finite_of_scale_eq_ok hp
  have hscaled : d.units ≤ d.scaledUnits m e := by
    refine le_scaledUnits (rounded_rounded _ unitsPerOne_pos) ?_
    rw [Nat.mul_comm]
    exact Nat.mul_le_mul_right _ (le_of_atLeastOne_eq hx)
  rw [hx] at hp
  rw [(scale_finite_eq_ok_iff.mp hp).2.2]
  refine le_roundHalfEven unitsPerOne_pos (Nat.lt_of_lt_of_le (d.two_mul_nanos_lt h) ?_)
  exact Nat.add_le_add_right (Nat.mul_le_mul_left 2 (Nat.mul_le_mul_right _ hscaled)) _

/-- **Factors larger than `1` are safe**: they shorten no duration. -/
theorem lasts_of_exceedsOne {x : Binary64} (hx : x.ExceedsOne) (d : Duration) :
    d.Lasts x.atLeastOne := by
  rcases Nat.lt_or_ge d.seconds (2 ^ 23) with hs | hs
  · exact lasts_of_lt hs x
  rw [atLeastOne_of_exceedsOne hx]
  intro product hp
  cases hx with
  | infinite => obtain ⟨m, e, h⟩ := exists_finite_of_scale_eq_ok hp; cases h
  | finite m e hm h =>
    obtain ⟨n, p, heq, hn, hn', hnanos⟩ := d.exists_units_eq hs
    have hscaled : (n + 1) * 2 ^ p ≤ d.scaledUnits m e := by
      refine le_scaledUnits (rounded_mul_two_pow (Nat.le_succ_of_le hn) hn' p) ?_
      rw [heq, Nat.mul_right_comm, ← Nat.mul_assoc]
      exact Nat.mul_le_mul_right _ (succ_mul_le_of_lt_ratio hm h hn)
    rw [(scale_finite_eq_ok_iff.mp hp).2.2]
    refine le_roundHalfEven unitsPerOne_pos ?_
    have hle := Nat.le_trans hnanos (Nat.mul_le_mul_right _ hscaled)
    have hpos := unitsPerOne_pos
    omega

end Duration

end FsidRegistry

import FsidRegistry.Proofs.Binary64.Rounding

/-!
# Durations in double precision

A duration is multiplied by turning it into a number of seconds, and that takes three roundings: of the
whole seconds, of the fraction, and of their sum.  The longer duration still has the larger number of
seconds (`Duration.units_mono`).  So a factor by which a duration can be multiplied will also do for
every shorter one (`Duration.isOk_scale_of_le`), and the longer one has the longer product
(`Duration.scale_mono`).
-/

namespace FsidRegistry.Duration

open Binary64

/-- The number of seconds in double precision, in units. -/
def units (d : Duration) : Nat :=
  rounded (rounded d.seconds 1 + rounded d.subsecondNanos nanosPerSecond) unitsPerOne

theorem nanosPerSecond_pos : 0 < nanosPerSecond := by decide

theorem subsecondNanos_lt (d : Duration) : d.subsecondNanos < nanosPerSecond :=
  Nat.mod_lt _ nanosPerSecond_pos

theorem seconds_lt (d : Duration) : d.seconds < 2 ^ 64 :=
  Nat.div_lt_of_lt_mul (Nat.lt_of_lt_of_eq d.inRange (Nat.mul_comm _ _))

/-- The fraction of a second is still less than one when it is rounded. -/
theorem rounded_subsecondNanos_lt (d : Duration) :
    rounded d.subsecondNanos nanosPerSecond < unitsPerOne := by
  have hlast : rounded 999999999 nanosPerSecond < unitsPerOne := by decide +kernel
  refine Nat.lt_of_le_of_lt (rounded_mono nanosPerSecond_pos nanosPerSecond_pos ?_) hlast
  exact Nat.mul_le_mul_right _ (Nat.le_of_lt_succ d.subsecondNanos_lt)

/-- From `2 ^ 53` seconds on the last place is that of twos at least, so the fraction is rounded away. -/
theorem rounded_seconds_add_eq {n r : Nat} (hn : 2 ^ 53 ≤ n) (hr : r < unitsPerOne) :
    rounded (rounded n 1 + r) unitsPerOne = rounded n 1 := by
  have hpos : 0 < n := Nat.lt_of_lt_of_le (Nat.two_pow_pos 53) hn
  have hplace : onesPlace + 1 ≤ placeOf n 1 := by
    have hlt := (inBinade_placeOf hpos Nat.one_pos).lt
    have hpow : 2 ^ (53 + onesPlace) < 2 ^ (placeOf n 1 + 53) := by
      calc 2 ^ (53 + onesPlace) = 2 ^ 53 * unitsPerOne := Nat.pow_add _ _ _
        _ ≤ n * unitsPerOne := Nat.mul_le_mul_right _ hn
        _ < 1 * 2 ^ (placeOf n 1 + 53) := hlt
        _ = 2 ^ (placeOf n 1 + 53) := Nat.one_mul _
    have := (Nat.pow_lt_pow_iff_right Nat.one_lt_two).mp hpow
    omega
  refine rounded_rounded_add hpos Nat.one_pos ?_
  calc 2 * r < 2 * unitsPerOne := by omega
    _ = 2 ^ (onesPlace + 1) := by rw [Nat.pow_succ, Nat.mul_comm, unitsPerOne]
    _ ≤ 2 ^ placeOf n 1 := Nat.pow_le_pow_right Nat.two_pos hplace

/-- A fraction added to whole seconds does not take them beyond the next one. -/
theorem rounded_seconds_add_le (n : Nat) {r : Nat} (hr : r < unitsPerOne) :
    rounded (rounded n 1 + r) unitsPerOne ≤ rounded (n + 1) 1 := by
  by_cases hn : n < 2 ^ 53
  · have hle : rounded n 1 + r ≤ (n + 1) * unitsPerOne := by
      rw [rounded_of_lt hn, Nat.succ_mul]
      omega
    exact rounded_mono unitsPerOne_pos Nat.one_pos (by omega)
  · rw [rounded_seconds_add_eq (Nat.le_of_not_lt hn) hr]
    exact rounded_mono Nat.one_pos Nat.one_pos (by omega)

theorem units_le (d : Duration) : d.units ≤ rounded (d.seconds + 1) 1 :=
  rounded_seconds_add_le d.seconds d.rounded_subsecondNanos_lt

theorem le_units (d : Duration) : rounded d.seconds 1 ≤ d.units := by
  calc rounded d.seconds 1 = rounded (rounded d.seconds 1) unitsPerOne :=
        (rounded_rounded d.seconds Nat.one_pos).symm
    _ ≤ d.units := rounded_mono unitsPerOne_pos unitsPerOne_pos
      (Nat.mul_le_mul_right _ (Nat.le_add_right _ _))

theorem rounded_lt_overflow {n : Nat} (h : n ≤ 2 ^ 64) : rounded n 1 < overflow := by
  have hlast : rounded (2 ^ 64) 1 < overflow := by decide +kernel
  exact Nat.lt_of_le_of_lt (rounded_mono Nat.one_pos Nat.one_pos (by omega)) hlast

theorem units?_toBinary64 (d : Duration) : d.toBinary64.units? = some d.units := by
  have hseconds : (ofNat d.seconds).units? = some (rounded d.seconds 1) := by
    rw [ofNat, units?_ofRatio _ Nat.one_pos,
      if_pos (rounded_lt_overflow (Nat.le_of_lt d.seconds_lt))]
  have hfraction : (ofRatio false d.subsecondNanos nanosPerSecond).units? =
      some (rounded d.subsecondNanos nanosPerSecond) := by
    have hlt : unitsPerOne < overflow := by
      have hones := onesPlace_eq
      have htop := topPlace_eq
      exact Nat.pow_lt_pow_right Nat.one_lt_two (by omega)
    rw [units?_ofRatio _ nanosPerSecond_pos,
      if_pos (Nat.lt_trans d.rounded_subsecondNanos_lt hlt)]
  have hlt : d.units < overflow :=
    Nat.lt_of_le_of_lt d.units_le (rounded_lt_overflow d.seconds_lt)
  rw [units] at hlt ⊢
  rw [toBinary64, units?_addNonneg hseconds hfraction, if_pos hlt]

/-- A longer duration has no fewer seconds in double precision. -/
theorem units_mono {d d' : Duration} (h : d.nanos ≤ d'.nanos) : d.units ≤ d'.units := by
  have hseconds : d.seconds ≤ d'.seconds := Nat.div_le_div_right h
  rcases Nat.lt_or_eq_of_le hseconds with hlt | heq
  · calc d.units ≤ rounded (d.seconds + 1) 1 := d.units_le
      _ ≤ rounded d'.seconds 1 := rounded_mono Nat.one_pos Nat.one_pos (by omega)
      _ ≤ d'.units := d'.le_units
  · have hnanos : d.subsecondNanos ≤ d'.subsecondNanos := by
      have hd := Nat.div_add_mod d.nanos nanosPerSecond
      have hd' := Nat.div_add_mod d'.nanos nanosPerSecond
      unfold seconds at heq
      rw [heq] at hd
      unfold subsecondNanos
      omega
    rw [units, units, heq]
    refine rounded_mono unitsPerOne_pos unitsPerOne_pos (Nat.mul_le_mul_right _ ?_)
    refine Nat.add_le_add_left (rounded_mono nanosPerSecond_pos nanosPerSecond_pos ?_) _
    exact Nat.mul_le_mul_right _ hnanos

/-! ## Multiplication -/

theorem isOk_iff_exists {x : Except Fault Duration} : x.isOk = true ↔ ∃ d, x = .ok d := by
  cases x <;> simp [Except.isOk, Except.toBool]

/-- A number of units is a duration. -/
def Fits (u : Nat) : Prop :=
  u < overflow ∧ roundHalfEven (u * nanosPerSecond) unitsPerOne < Nat.pow 2 64 * nanosPerSecond

theorem Fits.of_le {u v : Nat} (h : Fits v) (hle : u ≤ v) : Fits u := by
  refine ⟨Nat.lt_of_le_of_lt hle h.1, Nat.lt_of_le_of_lt ?_ h.2⟩
  refine roundHalfEven_mono unitsPerOne_pos unitsPerOne_pos ?_
  exact Nat.mul_le_mul_right _ (Nat.mul_le_mul_right _ hle)

theorem ofBinary64_finite_eq_ok_iff {negative : Bool} {m : Nat} {e : Int} {d : Duration}
    (he : -1074 ≤ e) :
    ofBinary64 (.finite negative m e) = .ok d ↔ negative = false ∧
      d.nanos = roundHalfEven (m * 2 ^ (e + 1074).toNat * nanosPerSecond) unitsPerOne := by
  obtain ⟨hpos, hvalue⟩ := ratio_finite (m := m) he
  have hround : roundHalfEven ((ratio m e).1 * nanosPerSecond) (ratio m e).2 =
      roundHalfEven (m * 2 ^ (e + 1074).toNat * nanosPerSecond) unitsPerOne := by
    refine roundHalfEven_congr hpos unitsPerOne_pos ?_
    rw [Nat.mul_right_comm, hvalue, Nat.mul_right_comm]
  simp only [ofBinary64, hround]
  by_cases h : ¬ negative = true ∧ roundHalfEven (m * 2 ^ (e + 1074).toNat * nanosPerSecond)
      unitsPerOne < Nat.pow 2 64 * nanosPerSecond
  · rw [dif_pos h, Except.ok.injEq, Duration.mk.injEq]
    exact ⟨fun h' => ⟨eq_false_of_ne_true h.1, h'.symm⟩, fun h' => h'.2.symm⟩
  · rw [dif_neg h]
    refine ⟨nofun, fun h' => absurd ⟨?_, ?_⟩ h⟩
    · rw [h'.1]
      exact Bool.false_ne_true
    · rw [← h'.2]
      exact d.inRange

theorem ofBinary64_ofRatio_eq_ok_iff {negative : Bool} {num den : Nat} {d : Duration}
    (hd : 0 < den) :
    ofBinary64 (ofRatio negative num den) = .ok d ↔ negative = false ∧ rounded num den < overflow ∧
      d.nanos = roundHalfEven (rounded num den * nanosPerSecond) unitsPerOne := by
  cases negative with
  | true =>
    rcases ofRatio_cases true num den with ⟨m, e, he, h⟩ | h
    · rw [h, ofBinary64_finite_eq_ok_iff he]
      simp
    · rw [h]
      simp [ofBinary64]
  | false =>
    have hunits := units?_ofRatio num hd
    rcases ofRatio_cases false num den with ⟨m, e, he, h⟩ | h
    · rw [h, units?, if_pos he] at hunits
      rw [h, ofBinary64_finite_eq_ok_iff he]
      split at hunits
      · rename_i hlt
        rw [Option.some.inj hunits]
        simp [hlt]
      · cases hunits
    · rw [h] at hunits ⊢
      split at hunits
      · cases hunits
      · simp [ofBinary64, *]

/-- How many units a duration has that is multiplied by a finite factor. -/
def scaledUnits (d : Duration) (m : Nat) (e : Int) : Nat :=
  rounded ((ratio m e).1 * d.units) ((ratio m e).2 * unitsPerOne)

theorem scaledUnits_mono {d d' : Duration} (h : d.nanos ≤ d'.nanos) (m : Nat) (e : Int) :
    d.scaledUnits m e ≤ d'.scaledUnits m e := by
  have hpos : 0 < (ratio m e).2 * unitsPerOne := Nat.mul_pos (powerOfTwo_pos e).2 unitsPerOne_pos
  exact rounded_mono hpos hpos (Nat.mul_le_mul_right _ (Nat.mul_le_mul_left _ (units_mono h)))

/-- What a duration multiplied by a finite factor comes to. -/
theorem scale_finite_eq_ok_iff {d d' : Duration} {negative : Bool} {m : Nat} {e : Int} :
    d.scale (.finite negative m e) = .ok d' ↔
      negative = false ∧ d.scaledUnits m e < overflow ∧
        d'.nanos = roundHalfEven (d.scaledUnits m e * nanosPerSecond) unitsPerOne := by
  obtain ⟨n, f, htimes, hpos, hvalue⟩ := exists_of_units? d.units?_toBinary64
  have hfactor : 0 < (ratio m e).2 := (powerOfTwo_pos e).2
  have hrounded : rounded ((ratio m e).1 * (ratio n f).1) ((ratio m e).2 * (ratio n f).2) =
      d.scaledUnits m e := by
    refine rounded_congr (Nat.mul_pos hfactor hpos) (Nat.mul_pos hfactor unitsPerOne_pos) ?_
    generalize ratio m e = q
    calc q.1 * (ratio n f).1 * (q.2 * unitsPerOne) = q.1 * q.2 * ((ratio n f).1 * unitsPerOne) := by
          ring
      _ = q.1 * d.units * (q.2 * (ratio n f).2) := by rw [hvalue]; ring
  rw [scale, htimes, mul]
  dsimp only
  rw [ofBinary64_ofRatio_eq_ok_iff (Nat.mul_pos hfactor hpos), hrounded]
  simp

/-- A duration can be multiplied by finite factors that are not negative, unless the product is too
long. -/
theorem isOk_scale_finite (d : Duration) (negative : Bool) (m : Nat) (e : Int) :
    (d.scale (.finite negative m e)).isOk = true ↔
      negative = false ∧ Fits (d.scaledUnits m e) := by
  rw [isOk_iff_exists]
  constructor
  · rintro ⟨d', h⟩
    obtain ⟨hsign, hlt, hnanos⟩ := scale_finite_eq_ok_iff.mp h
    exact ⟨hsign, hlt, hnanos ▸ d'.inRange⟩
  · rintro ⟨hsign, hlt, hrange⟩
    exact ⟨⟨_, hrange⟩, scale_finite_eq_ok_iff.mpr ⟨hsign, hlt, rfl⟩⟩

theorem exists_finite_of_scale_eq_ok {d d' : Duration} {factor : Binary64}
    (h : d.scale factor = .ok d') : ∃ m e, factor = .finite false m e := by
  cases factor with
  | nan =>
    rw [scale, mul] at h
    cases h
  | infinite negative =>
    obtain ⟨n, f, htimes, -⟩ := exists_of_units? d.units?_toBinary64
    rw [scale, htimes, mul] at h
    split at h <;> cases h
  | finite negative m e => exact ⟨m, e, by rw [(scale_finite_eq_ok_iff.mp h).1]⟩

/-- **A factor that does for a duration does for every shorter one.** -/
theorem isOk_scale_of_le {d d' : Duration} {factor : Binary64} (h : d.nanos ≤ d'.nanos)
    (hok : (d'.scale factor).isOk = true) : (d.scale factor).isOk = true := by
  obtain ⟨product, hproduct⟩ := isOk_iff_exists.mp hok
  obtain ⟨m, e, rfl⟩ := exists_finite_of_scale_eq_ok hproduct
  rw [isOk_scale_finite] at hok ⊢
  exact ⟨hok.1, hok.2.of_le (scaledUnits_mono h m e)⟩

/-- **Of two durations times the same factor, the longer one stays the longer one.** -/
theorem scale_mono {d d' product product' : Duration} {factor : Binary64} (h : d.nanos ≤ d'.nanos)
    (hp : d.scale factor = .ok product) (hp' : d'.scale factor = .ok product') :
    product.nanos ≤ product'.nanos := by
  obtain ⟨m, e, rfl⟩ := exists_finite_of_scale_eq_ok hp
  rw [(scale_finite_eq_ok_iff.mp hp).2.2, (scale_finite_eq_ok_iff.mp hp').2.2]
  refine roundHalfEven_mono unitsPerOne_pos unitsPerOne_pos ?_
  exact Nat.mul_le_mul_right _ (Nat.mul_le_mul_right _ (scaledUnits_mono h m e))

end FsidRegistry.Duration

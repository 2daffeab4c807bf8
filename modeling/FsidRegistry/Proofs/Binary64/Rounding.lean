import Mathlib.Tactic.Ring
import FsidRegistry.Duration

/-!
# Rounding to double precision

Every double-precision number is a whole number of units of `2 ^ -1074`, so numbers are compared here
as natural numbers of units, and no fraction is ever formed.

* `Binary64.rounded`: how many units a ratio is rounded to; `units?_ofRatio` says that `ofRatio` gives
  that number or, from `2 ^ 2098` units on, infinity.
* `rounded_mono`: rounding is monotone.
* `two_mul_le_rounded_add`: rounding takes away half of the last place at most.
* `exists_rounded_eq`: a rounded ratio has 53 bits.
* `rounded_add`: a number of double precision, and what is closer to it than half of its last place, is
  rounded to it.
-/

namespace FsidRegistry.Binary64

/-! ## Rounding to whole numbers -/

theorem roundHalfEven_mono {a b c d : Nat} (hb : 0 < b) (hd : 0 < d) (h : a * d ≤ c * b) :
    roundHalfEven a b ≤ roundHalfEven c d := by
  have hquot : a / b ≤ c / d := by
    rw [Nat.le_div_iff_mul_le hd]
    refine Nat.le_of_mul_le_mul_right ?_ hb
    calc a / b * d * b = a / b * b * d := by ring
      _ ≤ a * d := Nat.mul_le_mul_right _ (Nat.div_mul_le_self a b)
      _ ≤ c * b := h
  simp only [roundHalfEven]
  rcases Nat.lt_or_eq_of_le hquot with hlt | heq
  · split <;> split <;> omega
  · -- The quotients agree, so it is the remainders that are compared.
    have hrem : a % b * d ≤ c % d * b := by
      have ha : a * d = a / b * b * d + a % b * d := by
        rw [← Nat.add_mul, Nat.mul_comm (a / b), Nat.div_add_mod]
      have hc : c * b = a / b * b * d + c % d * b := by
        rw [heq, Nat.mul_right_comm, ← Nat.add_mul, Nat.mul_comm (c / d), Nat.div_add_mod]
      omega
    have hup : b < 2 * (a % b) → d < 2 * (c % d) := by
      intro hlt
      refine Nat.lt_of_mul_lt_mul_right (a := b) ?_
      calc d * b = b * d := Nat.mul_comm d b
        _ < 2 * (a % b) * d := Nat.mul_lt_mul_of_pos_right hlt hd
        _ = 2 * (a % b * d) := Nat.mul_assoc _ _ _
        _ ≤ 2 * (c % d * b) := Nat.mul_le_mul_left 2 hrem
        _ = 2 * (c % d) * b := (Nat.mul_assoc _ _ _).symm
    have htie : 2 * (a % b) = b → d ≤ 2 * (c % d) := by
      intro heq'
      refine Nat.le_of_mul_le_mul_right (c := b) ?_ hb
      calc d * b = 2 * (a % b) * d := by rw [heq', Nat.mul_comm]
        _ = 2 * (a % b * d) := Nat.mul_assoc _ _ _
        _ ≤ 2 * (c % d * b) := Nat.mul_le_mul_left 2 hrem
        _ = 2 * (c % d) * b := (Nat.mul_assoc _ _ _).symm
    rw [← heq]
    simp only [Bool.or_eq_true, decide_eq_true_eq, Bool.and_eq_true, beq_iff_eq]
    split
    · rw [if_pos]
      omega
    · split <;> omega

/-- Only the value of a ratio matters. -/
theorem roundHalfEven_congr {a b c d : Nat} (hb : 0 < b) (hd : 0 < d) (h : a * d = c * b) :
    roundHalfEven a b = roundHalfEven c d :=
  Nat.le_antisymm (roundHalfEven_mono hb hd (Nat.le_of_eq h))
    (roundHalfEven_mono hd hb (Nat.le_of_eq h.symm))

/-- The remainder decides between the quotient and the next number. -/
theorem roundHalfEven_cases (a d : Nat) :
    (roundHalfEven a d = a / d ∧ 2 * (a % d) ≤ d) ∨
      (roundHalfEven a d = a / d + 1 ∧ d ≤ 2 * (a % d)) := by
  simp only [roundHalfEven]
  split <;> rename_i h <;>
    simp only [Bool.or_eq_true, decide_eq_true_eq, Bool.and_eq_true, beq_iff_eq] at h
  · exact Or.inr ⟨rfl, by omega⟩
  · exact Or.inl ⟨rfl, by omega⟩

theorem roundHalfEven_add {n r d : Nat} (h : 2 * r < d) : roundHalfEven (n * d + r) d = n := by
  have hd : 0 < d := Nat.lt_of_le_of_lt (Nat.zero_le _) h
  have hr : r < d := by omega
  have hdiv : (n * d + r) / d = n := by
    rw [Nat.mul_comm, Nat.mul_add_div hd, Nat.div_eq_of_lt hr, Nat.add_zero]
  have hmod : (n * d + r) % d = r := by
    rw [Nat.mul_comm, Nat.mul_add_mod, Nat.mod_eq_of_lt hr]
  rcases roundHalfEven_cases (n * d + r) d with ⟨heq, -⟩ | ⟨-, hup⟩
  · rw [heq, hdiv]
  · rw [hmod] at hup
    omega

theorem roundHalfEven_mul (n : Nat) {d : Nat} (hd : 0 < d) : roundHalfEven (n * d) d = n :=
  roundHalfEven_add (r := 0) hd

/-- Rounding takes away half at most. -/
theorem two_mul_le_roundHalfEven (a : Nat) {d : Nat} (hd : 0 < d) :
    2 * a ≤ d * (2 * roundHalfEven a d + 1) := by
  have hdiv := Nat.div_add_mod a d
  rcases roundHalfEven_cases a d with ⟨heq, hdown⟩ | ⟨heq, -⟩
  · calc 2 * a = 2 * (d * (a / d)) + 2 * (a % d) := by omega
      _ ≤ 2 * (d * (a / d)) + d := Nat.add_le_add_left hdown _
      _ = d * (2 * roundHalfEven a d + 1) := by rw [heq]; ring
  · have hmod := Nat.mod_lt a hd
    calc 2 * a ≤ 2 * (d * (a / d)) + 3 * d := by omega
      _ = d * (2 * roundHalfEven a d + 1) := by rw [heq]; ring

/-- What is closer to a whole number than half is not rounded to a smaller one. -/
theorem le_roundHalfEven {n a d : Nat} (hd : 0 < d) (h : 2 * (n * d) < 2 * a + d) :
    n ≤ roundHalfEven a d := by
  refine Nat.le_of_not_lt fun hlt => Nat.lt_irrefl (2 * a + d) ?_
  calc 2 * a + d ≤ d * (2 * roundHalfEven a d + 1) + d :=
        Nat.add_le_add_right (two_mul_le_roundHalfEven a hd) d
    _ = 2 * ((roundHalfEven a d + 1) * d) := by ring
    _ ≤ 2 * (n * d) := Nat.mul_le_mul_left 2 (Nat.mul_le_mul_right d hlt)
    _ < 2 * a + d := h

/-! ## Powers of two -/

theorem powerOfTwo_sub (a b : Nat) :
    (powerOfTwo ((a : Int) - b)).1 * 2 ^ b = (powerOfTwo ((a : Int) - b)).2 * 2 ^ a := by
  unfold powerOfTwo
  split
  · have : ((a : Int) - b).toNat + b = a := by omega
    simp only [Nat.pow_eq, Nat.one_mul]
    rw [← Nat.pow_add, this]
  · have : (-((a : Int) - b)).toNat + a = b := by omega
    simp only [Nat.pow_eq, Nat.one_mul]
    rw [← Nat.pow_add, this]

theorem powerOfTwo_pos (e : Int) : 0 < (powerOfTwo e).1 ∧ 0 < (powerOfTwo e).2 := by
  unfold powerOfTwo
  split
  · exact ⟨Nat.two_pow_pos _, Nat.one_pos⟩
  · exact ⟨Nat.one_pos, Nat.two_pow_pos _⟩

/-- Comparing a ratio with a power of two. -/
theorem mul_powerOfTwo_lt_iff {num den : Nat} (a b : Nat) :
    num * (powerOfTwo ((a : Int) - b)).2 < den * (powerOfTwo ((a : Int) - b)).1 ↔
      num * 2 ^ b < den * 2 ^ a := by
  have hpow := powerOfTwo_sub a b
  have hpos := powerOfTwo_pos ((a : Int) - b)
  generalize powerOfTwo ((a : Int) - b) = p at hpow hpos ⊢
  obtain ⟨up, down⟩ := p
  dsimp only at hpow hpos ⊢
  rw [← Nat.mul_lt_mul_right (a := 2 ^ b) (Nat.two_pow_pos b),
    ← Nat.mul_lt_mul_right (a := down) (b := num * 2 ^ b) hpos.2]
  have hl : num * down * 2 ^ b = num * 2 ^ b * down := Nat.mul_right_comm _ _ _
  have hr : den * up * 2 ^ b = den * 2 ^ a * down := by
    rw [Nat.mul_assoc, hpow, Nat.mul_assoc, Nat.mul_comm down]
  rw [hl, hr]

/-! ## The last place of a ratio -/

/-- The place of `1`, counted from the place of a unit. -/
@[irreducible]
def onesPlace : Nat := 1074

theorem onesPlace_eq : onesPlace = 1074 := by rw [onesPlace]

/-- How many units `1` has. -/
def unitsPerOne : Nat := 2 ^ onesPlace

theorem unitsPerOne_pos : 0 < unitsPerOne := Nat.two_pow_pos onesPlace

theorem two_pow_mul_unitsPerOne (n : Nat) : 2 ^ n * unitsPerOne = 2 ^ (n + onesPlace) :=
  (Nat.pow_add 2 n onesPlace).symm

/-- Rounding `num / den` to 53 bits makes it a multiple of `2 ^ place` units. -/
structure InBinade (num den place : Nat) : Prop where
  lt : num * unitsPerOne < den * 2 ^ (place + 53)
  ge : place = 0 ∨ den * 2 ^ (place + 52) ≤ num * unitsPerOne

/-- The last place of a ratio. -/
def placeOf (num den : Nat) : Nat := (exponentOf num den + 1074).toNat

theorem exponentOf_eq (num den : Nat) : exponentOf num den = (placeOf num den : Int) - onesPlace := by
  have : -1074 ≤ exponentOf num den := Int.le_max_right _ _
  rw [onesPlace_eq, placeOf]
  omega

/-- A ratio lies between two neighbouring powers of two, from which `exponentOf` counts. -/
theorem exists_exponentOf {num den : Nat} (hn : 0 < num) (hd : 0 < den) :
    ∃ a b : Nat, exponentOf num den = max ((a : Int) - b - 53) (-1074) ∧
      num * 2 ^ b < den * 2 ^ a ∧ den * 2 ^ a ≤ num * 2 ^ (b + 1) := by
  have hnlow : 2 ^ num.log2 ≤ num := Nat.log2_self_le (Nat.pos_iff_ne_zero.mp hn)
  have hnhigh : num < 2 ^ (num.log2 + 1) := Nat.lt_log2_self
  have hdlow : 2 ^ den.log2 ≤ den := Nat.log2_self_le (Nat.pos_iff_ne_zero.mp hd)
  have hdhigh : den < 2 ^ (den.log2 + 1) := Nat.lt_log2_self
  simp only [exponentOf, mul_powerOfTwo_lt_iff]
  generalize num.log2 = a at *
  generalize den.log2 = b at *
  by_cases hlead : num * 2 ^ b < den * 2 ^ a
  · refine ⟨a, b, ?_, hlead, ?_⟩
    · rw [if_pos hlead]
      omega
    · calc den * 2 ^ a ≤ 2 ^ (b + 1) * num := Nat.mul_le_mul (Nat.le_of_lt hdhigh) hnlow
        _ = num * 2 ^ (b + 1) := Nat.mul_comm _ _
  · refine ⟨a + 1, b, ?_, ?_, ?_⟩
    · rw [if_neg hlead]
      omega
    · calc num * 2 ^ b < 2 ^ (a + 1) * 2 ^ b := Nat.mul_lt_mul_of_pos_right hnhigh (Nat.two_pow_pos b)
        _ ≤ 2 ^ (a + 1) * den := Nat.mul_le_mul_left _ hdlow
        _ = den * 2 ^ (a + 1) := Nat.mul_comm _ _
    · rw [Nat.pow_succ, ← Nat.mul_assoc, Nat.pow_succ, ← Nat.mul_assoc]
      exact Nat.mul_le_mul_right 2 (Nat.le_of_not_lt hlead)

theorem inBinade_placeOf {num den : Nat} (hn : 0 < num) (hd : 0 < den) :
    InBinade num den (placeOf num den) := by
  obtain ⟨a, b, he, hlt, hge⟩ := exists_exponentOf hn hd
  have hp := exponentOf_eq num den
  have hones := onesPlace_eq
  generalize placeOf num den = p at *
  refine ⟨?_, ?_⟩
  · refine Nat.lt_of_mul_lt_mul_right (a := 2 ^ b) ?_
    calc num * unitsPerOne * 2 ^ b = num * 2 ^ b * unitsPerOne := Nat.mul_right_comm _ _ _
      _ < den * 2 ^ a * unitsPerOne := Nat.mul_lt_mul_of_pos_right hlt unitsPerOne_pos
      _ = den * 2 ^ (a + onesPlace) := by rw [Nat.mul_assoc, two_pow_mul_unitsPerOne]
      _ ≤ den * 2 ^ (p + 53 + b) :=
        Nat.mul_le_mul_left _ (Nat.pow_le_pow_right Nat.two_pos (by omega))
      _ = den * 2 ^ (p + 53) * 2 ^ b := by rw [Nat.mul_assoc, ← Nat.pow_add]
  · rcases Nat.eq_zero_or_pos p with h0 | hpos
    · exact Or.inl h0
    · refine Or.inr (Nat.le_of_mul_le_mul_right (c := 2 ^ (b + 1)) ?_ (Nat.two_pow_pos _))
      calc den * 2 ^ (p + 52) * 2 ^ (b + 1) = den * 2 ^ (p + 52 + (b + 1)) := by
            rw [Nat.mul_assoc, ← Nat.pow_add]
        _ = den * 2 ^ (a + onesPlace) := by
          have : p + 52 + (b + 1) = a + onesPlace := by omega
          rw [this]
        _ = den * 2 ^ a * unitsPerOne := by rw [Nat.mul_assoc, two_pow_mul_unitsPerOne]
        _ ≤ num * 2 ^ (b + 1) * unitsPerOne := Nat.mul_le_mul_right _ hge
        _ = num * unitsPerOne * 2 ^ (b + 1) := Nat.mul_right_comm _ _ _

theorem InBinade.place_mono {a b c d p q : Nat} (hb : 0 < b) (h : InBinade a b p)
    (h' : InBinade c d q) (hle : a * d ≤ c * b) : p ≤ q := by
  rcases h.ge with h0 | hge
  · omega
  · have hlt : 2 ^ (p + 52) < 2 ^ (q + 53) := by
      refine Nat.lt_of_mul_lt_mul_right (a := b * d) ?_
      calc 2 ^ (p + 52) * (b * d) = b * 2 ^ (p + 52) * d := by ring
        _ ≤ a * unitsPerOne * d := Nat.mul_le_mul_right _ hge
        _ = a * d * unitsPerOne := Nat.mul_right_comm _ _ _
        _ ≤ c * b * unitsPerOne := Nat.mul_le_mul_right _ hle
        _ = c * unitsPerOne * b := Nat.mul_right_comm _ _ _
        _ < d * 2 ^ (q + 53) * b := Nat.mul_lt_mul_of_pos_right h'.lt hb
        _ = 2 ^ (q + 53) * (b * d) := by ring
    have := (Nat.pow_lt_pow_iff_right Nat.one_lt_two).mp hlt
    omega

/-! ## Rounding to units -/

/-- The ratio `num / den` in multiples of `2 ^ place` units, rounded. -/
def mantissaAt (place num den : Nat) : Nat := roundHalfEven (num * unitsPerOne) (den * 2 ^ place)

/-- How many units the ratio `num / den` is rounded to. -/
def rounded (num den : Nat) : Nat :=
  mantissaAt (placeOf num den) num den * 2 ^ placeOf num den

theorem mantissaAt_mono {a b c d : Nat} (p : Nat) (hb : 0 < b) (hd : 0 < d) (h : a * d ≤ c * b) :
    mantissaAt p a b ≤ mantissaAt p c d := by
  have hp : 0 < 2 ^ p := Nat.two_pow_pos p
  refine roundHalfEven_mono (Nat.mul_pos hb hp) (Nat.mul_pos hd hp) ?_
  calc a * unitsPerOne * (d * 2 ^ p) = a * d * (unitsPerOne * 2 ^ p) := by ring
    _ ≤ c * b * (unitsPerOne * 2 ^ p) := Nat.mul_le_mul_right _ h
    _ = c * unitsPerOne * (b * 2 ^ p) := by ring

theorem InBinade.mantissaAt_le {num den p : Nat} (hd : 0 < den) (h : InBinade num den p) :
    mantissaAt p num den ≤ 2 ^ 53 := by
  have hp : 0 < den * 2 ^ p := Nat.mul_pos hd (Nat.two_pow_pos p)
  have hmul : den * 2 ^ (p + 53) = 2 ^ 53 * (den * 2 ^ p) := by ring
  rw [← roundHalfEven_mul (2 ^ 53) hp, ← hmul]
  exact roundHalfEven_mono hp hp (Nat.mul_le_mul_right _ (Nat.le_of_lt h.lt))

theorem InBinade.le_mantissaAt {num den p : Nat} (hd : 0 < den) (h : InBinade num den p)
    (hpos : 0 < p) : 2 ^ 52 ≤ mantissaAt p num den := by
  have hp : 0 < den * 2 ^ p := Nat.mul_pos hd (Nat.two_pow_pos p)
  have hmul : den * 2 ^ (p + 52) = 2 ^ 52 * (den * 2 ^ p) := by ring
  rw [← roundHalfEven_mul (2 ^ 52) hp, ← hmul]
  exact roundHalfEven_mono hp hp (Nat.mul_le_mul_right _ (h.ge.resolve_left (by omega)))

theorem rounded_zero (den : Nat) : rounded 0 den = 0 := by
  simp [rounded, mantissaAt, roundHalfEven]

/-- **Rounding is monotone.** -/
theorem rounded_mono {a b c d : Nat} (hb : 0 < b) (hd : 0 < d) (h : a * d ≤ c * b) :
    rounded a b ≤ rounded c d := by
  rcases Nat.eq_zero_or_pos a with rfl | ha
  · rw [rounded_zero]
    exact Nat.zero_le _
  have hc : 0 < c := Nat.pos_of_mul_pos_right (Nat.lt_of_lt_of_le (Nat.mul_pos ha hd) h)
  have hab := inBinade_placeOf ha hb
  have hcd := inBinade_placeOf hc hd
  simp only [rounded]
  generalize placeOf a b = p at *
  generalize placeOf c d = q at *
  rcases Nat.lt_or_eq_of_le (hab.place_mono hb hcd h) with hlt | rfl
  · calc mantissaAt p a b * 2 ^ p ≤ 2 ^ 53 * 2 ^ p := Nat.mul_le_mul_right _ (hab.mantissaAt_le hb)
      _ = 2 ^ (53 + p) := (Nat.pow_add _ _ _).symm
      _ ≤ 2 ^ (52 + q) := Nat.pow_le_pow_right Nat.two_pos (by omega)
      _ = 2 ^ 52 * 2 ^ q := Nat.pow_add _ _ _
      _ ≤ mantissaAt q c d * 2 ^ q := Nat.mul_le_mul_right _ (hcd.le_mantissaAt hd (by omega))
  · exact Nat.mul_le_mul_right _ (mantissaAt_mono p hb hd h)

theorem rounded_congr {a b c d : Nat} (hb : 0 < b) (hd : 0 < d) (h : a * d = c * b) :
    rounded a b = rounded c d :=
  Nat.le_antisymm (rounded_mono hb hd (Nat.le_of_eq h)) (rounded_mono hd hb (Nat.le_of_eq h.symm))

/-- What has at most 53 bits down to some place, and less than half of that place after it, is rounded
to those bits. -/
theorem rounded_add {m p r : Nat} (hm : p = 0 ∨ 2 ^ 52 ≤ m) (hm' : m < 2 ^ 53) (hr : 2 * r < 2 ^ p) :
    rounded (m * 2 ^ p + r) unitsPerOne = m * 2 ^ p := by
  rcases Nat.eq_zero_or_pos (m * 2 ^ p + r) with h0 | hpos
  · have hz : m * 2 ^ p = 0 := by omega
    rw [h0, rounded_zero, hz]
  have hplace := inBinade_placeOf hpos unitsPerOne_pos
  have hbinade : InBinade (m * 2 ^ p + r) unitsPerOne p := by
    constructor
    · rw [Nat.mul_comm unitsPerOne]
      refine Nat.mul_lt_mul_of_pos_right ?_ unitsPerOne_pos
      calc m * 2 ^ p + r < m * 2 ^ p + 2 ^ p := by omega
        _ = (m + 1) * 2 ^ p := (Nat.succ_mul _ _).symm
        _ ≤ 2 ^ 53 * 2 ^ p := Nat.mul_le_mul_right _ hm'
        _ = 2 ^ (p + 53) := by rw [Nat.mul_comm, ← Nat.pow_add]
    · refine hm.imp_right fun hm => ?_
      rw [Nat.mul_comm unitsPerOne]
      refine Nat.mul_le_mul_right _ ?_
      calc 2 ^ (p + 52) = 2 ^ 52 * 2 ^ p := by rw [Nat.mul_comm, ← Nat.pow_add]
        _ ≤ m * 2 ^ p := Nat.mul_le_mul_right _ hm
        _ ≤ m * 2 ^ p + r := Nat.le_add_right _ _
  have heq : placeOf (m * 2 ^ p + r) unitsPerOne = p :=
    Nat.le_antisymm (hplace.place_mono unitsPerOne_pos hbinade (Nat.le_refl _))
      (hbinade.place_mono unitsPerOne_pos hplace (Nat.le_refl _))
  rw [rounded, heq, mantissaAt, Nat.mul_comm unitsPerOne, roundHalfEven_congr (c := m * 2 ^ p + r)
    (d := 2 ^ p) (Nat.mul_pos (Nat.two_pow_pos p) unitsPerOne_pos) (Nat.two_pow_pos p) (by ring),
    roundHalfEven_add hr]

/-- Rounding takes away half of the last place at most. -/
theorem two_mul_le_rounded_add (num : Nat) {den : Nat} (hd : 0 < den) :
    2 * (num * unitsPerOne) ≤ den * (2 * rounded num den + 2 ^ placeOf num den) := by
  calc 2 * (num * unitsPerOne)
      ≤ den * 2 ^ placeOf num den * (2 * mantissaAt (placeOf num den) num den + 1) :=
        two_mul_le_roundHalfEven _ (Nat.mul_pos hd (Nat.two_pow_pos _))
    _ = den * (2 * rounded num den + 2 ^ placeOf num den) := by rw [rounded]; ring

theorem placeOf_le {num den p : Nat} (hn : 0 < num) (hd : 0 < den)
    (h : num * unitsPerOne < den * 2 ^ (p + 53)) : placeOf num den ≤ p := by
  rcases (inBinade_placeOf hn hd).ge with h0 | hge
  · omega
  · have hlt : 2 ^ (placeOf num den + 52) < 2 ^ (p + 53) :=
      Nat.lt_of_mul_lt_mul_left (Nat.lt_of_le_of_lt hge h)
    have := (Nat.pow_lt_pow_iff_right Nat.one_lt_two).mp hlt
    omega

/-- Below `2 ^ (p + 53)` units, the last place is `p` at most. -/
theorem two_mul_le_rounded_add_of_lt {num den p : Nat} (hd : 0 < den)
    (h : num * unitsPerOne < den * 2 ^ (p + 53)) :
    2 * (num * unitsPerOne) ≤ den * (2 * rounded num den + 2 ^ p) := by
  rcases Nat.eq_zero_or_pos num with rfl | hn
  · simp
  · refine Nat.le_trans (two_mul_le_rounded_add num hd) (Nat.mul_le_mul_left _ ?_)
    exact Nat.add_le_add_left (Nat.pow_le_pow_right Nat.two_pos (placeOf_le hn hd h)) _

/-- A rounded number of units that is less than `2 ^ (p + 53)` has lost half of the place `p` at
most. -/
theorem two_mul_le_rounded_units_add {u p : Nat} (h : u < 2 ^ (p + 53)) :
    2 * u ≤ 2 * rounded u unitsPerOne + 2 ^ p := by
  have hbits : u * unitsPerOne < unitsPerOne * 2 ^ (p + 53) := by
    rw [Nat.mul_comm]
    exact Nat.mul_lt_mul_of_pos_left h unitsPerOne_pos
  refine Nat.le_of_mul_le_mul_left (c := unitsPerOne) ?_ unitsPerOne_pos
  calc unitsPerOne * (2 * u) = 2 * (u * unitsPerOne) := by ring
    _ ≤ unitsPerOne * (2 * rounded u unitsPerOne + 2 ^ p) :=
      two_mul_le_rounded_add_of_lt unitsPerOne_pos hbits

/-- A rounded ratio has 53 bits down to its last place, or down to the next one if the rounding carries
into another bit. -/
theorem exists_rounded_eq {num den : Nat} (hn : 0 < num) (hd : 0 < den) :
    ∃ m p, rounded num den = m * 2 ^ p ∧ (p = 0 ∨ 2 ^ 52 ≤ m) ∧ m < 2 ^ 53 ∧
      num * unitsPerOne < den * 2 ^ (p + 53) := by
  have h := inBinade_placeOf hn hd
  have hle := h.mantissaAt_le hd
  have hge := h.le_mantissaAt hd
  rw [rounded]
  generalize placeOf num den = p at *
  generalize mantissaAt p num den = m at *
  rcases Nat.lt_or_eq_of_le hle with hlt | rfl
  · refine ⟨m, p, rfl, ?_, hlt, h.lt⟩
    rcases Nat.eq_zero_or_pos p with h0 | hpos
    · exact Or.inl h0
    · exact Or.inr (hge hpos)
  · refine ⟨2 ^ 52, p + 1, by ring, Or.inr (Nat.le_refl _), by decide, ?_⟩
    refine Nat.lt_of_lt_of_le h.lt (Nat.mul_le_mul_left _ ?_)
    exact Nat.pow_le_pow_right Nat.two_pos (by omega)

/-- A rounded ratio and less than half of its last place is rounded to that ratio again. -/
theorem rounded_rounded_add {num den r : Nat} (hn : 0 < num) (hd : 0 < den)
    (hr : 2 * r < 2 ^ placeOf num den) :
    rounded (rounded num den + r) unitsPerOne = rounded num den := by
  obtain ⟨m, p, heq, hm, hm', hlt⟩ := exists_rounded_eq hn hd
  rw [heq]
  refine rounded_add hm hm' (Nat.lt_of_lt_of_le hr ?_)
  exact Nat.pow_le_pow_right Nat.two_pos (placeOf_le hn hd hlt)

theorem rounded_rounded (num : Nat) {den : Nat} (hd : 0 < den) :
    rounded (rounded num den) unitsPerOne = rounded num den := by
  rcases Nat.eq_zero_or_pos num with rfl | hn
  · rw [rounded_zero, rounded_zero]
  · exact rounded_rounded_add (r := 0) hn hd (Nat.two_pow_pos _)

/-- Whole numbers of 53 bits are exact. -/
theorem rounded_of_lt {n : Nat} (h : n < 2 ^ 53) : rounded n 1 = n * unitsPerOne := by
  rcases Nat.eq_zero_or_pos n with rfl | hn
  · rw [rounded_zero, Nat.zero_mul]
  have hlow : 2 ^ n.log2 ≤ n := Nat.log2_self_le (Nat.pos_iff_ne_zero.mp hn)
  have hhigh : n < 2 ^ (n.log2 + 1) := Nat.lt_log2_self
  have hlog : n.log2 < 53 := (Nat.log2_lt (Nat.pos_iff_ne_zero.mp hn)).mpr h
  generalize n.log2 = k at *
  have hones := onesPlace_eq
  have hunits : n * unitsPerOne = n * 2 ^ (52 - k) * 2 ^ (1022 + k) + 0 := by
    have : 52 - k + (1022 + k) = onesPlace := by omega
    rw [Nat.add_zero, Nat.mul_assoc, ← Nat.pow_add, this, unitsPerOne]
  rw [rounded_congr (c := n * unitsPerOne) Nat.one_pos unitsPerOne_pos (Nat.mul_one _).symm, hunits,
    rounded_add (Or.inr ?_) ?_ (Nat.two_pow_pos _), Nat.add_zero]
  · calc 2 ^ 52 = 2 ^ k * 2 ^ (52 - k) := by
          have : k + (52 - k) = 52 := by omega
          rw [← Nat.pow_add, this]
      _ ≤ n * 2 ^ (52 - k) := Nat.mul_le_mul_right _ hlow
  · calc n * 2 ^ (52 - k) < 2 ^ (k + 1) * 2 ^ (52 - k) :=
          Nat.mul_lt_mul_of_pos_right hhigh (Nat.two_pow_pos _)
      _ = 2 ^ 53 := by
          have : k + 1 + (52 - k) = 53 := by omega
          rw [← Nat.pow_add, this]

/-! ## Numbers by their units -/

/-- How many units a finite number has that is not negative. -/
def units? : Binary64 → Option Nat
  | .finite false m e => if -1074 ≤ e then some (m * 2 ^ (e + 1074).toNat) else none
  | _ => none

theorem units?_finite (m p : Nat) :
    (Binary64.finite false m ((p : Int) - onesPlace)).units? = some (m * 2 ^ p) := by
  have hones := onesPlace_eq
  have hp : ((p : Int) - onesPlace + 1074).toNat = p := by omega
  simp only [units?]
  rw [if_pos (by omega), hp]

/-- The last place of the largest finite numbers. -/
@[irreducible]
def topPlace : Nat := 2045

theorem topPlace_eq : topPlace = 2045 := by rw [topPlace]

/-- How many units are too many for a finite number. -/
def overflow : Nat := 2 ^ (53 + topPlace)

theorem mul_two_pow_lt_overflow_iff {m p : Nat} (hm : p = 0 ∨ 2 ^ 52 ≤ m) (hm' : m < 2 ^ 53) :
    m * 2 ^ p < overflow ↔ p ≤ topPlace := by
  constructor
  · intro h
    refine Nat.le_of_not_lt fun hp => Nat.not_le.mpr h ?_
    calc overflow ≤ 2 ^ (52 + p) := Nat.pow_le_pow_right Nat.two_pos (by omega)
      _ = 2 ^ 52 * 2 ^ p := Nat.pow_add _ _ _
      _ ≤ m * 2 ^ p := Nat.mul_le_mul_right _ (hm.resolve_left (by omega))
  · intro hp
    calc m * 2 ^ p < 2 ^ 53 * 2 ^ p := Nat.mul_lt_mul_of_pos_right hm' (Nat.two_pow_pos p)
      _ = 2 ^ (53 + p) := (Nat.pow_add _ _ _).symm
      _ ≤ overflow := Nat.pow_le_pow_right Nat.two_pos (by omega)

/-- A mantissa of 53 bits makes a finite number up to the last place of the largest ones. -/
theorem units?_normal {m p : Nat} (hm : p = 0 ∨ 2 ^ 52 ≤ m) (hm' : m < 2 ^ 53) :
    (if 971 < (p : Int) - onesPlace then Binary64.infinite false
      else .finite false m ((p : Int) - onesPlace)).units? =
      if m * 2 ^ p < overflow then some (m * 2 ^ p) else none := by
  have hones := onesPlace_eq
  have htop := topPlace_eq
  by_cases hp : p ≤ topPlace
  · rw [if_neg (by omega), if_pos ((mul_two_pow_lt_overflow_iff hm hm').mpr hp), units?_finite]
  · rw [if_pos (by omega), if_neg fun h => hp ((mul_two_pow_lt_overflow_iff hm hm').mp h)]
    rfl

/-- `ofRatio` gives the rounded ratio, or infinity if that is too large. -/
theorem units?_ofRatio (num : Nat) {den : Nat} (hd : 0 < den) :
    (ofRatio false num den).units? =
      if rounded num den < overflow then some (rounded num den) else none := by
  rcases Nat.eq_zero_or_pos num with rfl | hn
  · have hpos : 0 < overflow := Nat.two_pow_pos _
    rw [rounded_zero, if_pos hpos]
    simp [ofRatio, units?]
  have h := inBinade_placeOf hn hd
  have hle := h.mantissaAt_le hd
  have hge := h.le_mantissaAt hd
  have hmantissa : roundHalfEven (num * (powerOfTwo (exponentOf num den)).2)
      (den * (powerOfTwo (exponentOf num den)).1) = mantissaAt (placeOf num den) num den := by
    rw [exponentOf_eq]
    generalize placeOf num den = p
    have hpow := powerOfTwo_sub p onesPlace
    have hpos := powerOfTwo_pos ((p : Int) - onesPlace)
    generalize powerOfTwo ((p : Int) - onesPlace) = q at hpow hpos ⊢
    refine roundHalfEven_congr (Nat.mul_pos hd hpos.1) (Nat.mul_pos hd (Nat.two_pow_pos p)) ?_
    calc num * q.2 * (den * 2 ^ p) = num * den * (q.2 * 2 ^ p) := by ring
      _ = num * den * (q.1 * 2 ^ onesPlace) := by rw [hpow]
      _ = num * unitsPerOne * (den * q.1) := by rw [unitsPerOne]; ring
  simp only [ofRatio]
  rw [if_neg (by simpa using Nat.pos_iff_ne_zero.mp hn), hmantissa, exponentOf_eq, rounded]
  generalize placeOf num den = p at *
  generalize mantissaAt p num den = m at *
  rcases Nat.lt_or_eq_of_le hle with hlt | rfl
  · have hcarry : (m == Nat.pow 2 53) = false := by simpa using Nat.ne_of_lt hlt
    simp only [hcarry]
    refine units?_normal ?_ hlt
    rcases Nat.eq_zero_or_pos p with h0 | hpos
    · exact Or.inl h0
    · exact Or.inr (hge hpos)
  · have hcarry : 2 ^ 53 * 2 ^ p = 2 ^ 52 * 2 ^ (p + 1) := by ring
    have hnext : (p : Int) - onesPlace + 1 = (p + 1 : Nat) - onesPlace := by omega
    rw [hcarry, ← units?_normal (Or.inr (Nat.le_refl _)) (by decide), ← hnext]
    rfl

/-! ## Ratios and sums -/

theorem ofRatio_cases (negative : Bool) (num den : Nat) :
    (∃ m e, -1074 ≤ e ∧ ofRatio negative num den = .finite negative m e) ∨
      ofRatio negative num den = .infinite negative := by
  have he : -1074 ≤ exponentOf num den := Int.le_max_right _ _
  simp only [ofRatio]
  split
  · exact Or.inl ⟨_, _, Int.le_refl _, rfl⟩
  · split <;> dsimp only <;> split
    · exact Or.inr rfl
    · exact Or.inl ⟨_, _, by omega, rfl⟩
    · exact Or.inr rfl
    · exact Or.inl ⟨_, _, he, rfl⟩

/-- The ratio of a finite number has its value. -/
theorem ratio_finite {m : Nat} {e : Int} (he : -1074 ≤ e) :
    0 < (ratio m e).2 ∧ (ratio m e).1 * unitsPerOne = m * 2 ^ (e + 1074).toNat * (ratio m e).2 := by
  have hones := onesPlace_eq
  have hplace : e = ((e + 1074).toNat : Int) - onesPlace := by omega
  generalize (e + 1074).toNat = p at hplace ⊢
  subst hplace
  have hpow := powerOfTwo_sub p onesPlace
  have hpos := powerOfTwo_pos ((p : Int) - onesPlace)
  simp only [ratio]
  generalize powerOfTwo ((p : Int) - onesPlace) = q at hpow hpos ⊢
  refine ⟨hpos.2, ?_⟩
  calc m * q.1 * unitsPerOne = m * (q.1 * 2 ^ onesPlace) := Nat.mul_assoc _ _ _
    _ = m * 2 ^ p * q.2 := by rw [hpow]; ring

theorem exists_of_units? {x : Binary64} {u : Nat} (h : x.units? = some u) :
    ∃ m e, x = .finite false m e ∧ 0 < (ratio m e).2 ∧
      (ratio m e).1 * unitsPerOne = u * (ratio m e).2 := by
  unfold units? at h
  split at h
  · split at h
    · cases h
      exact ⟨_, _, rfl, ratio_finite ‹_›⟩
    · cases h
  · cases h

theorem units?_addNonneg {x y : Binary64} {u v : Nat} (hx : x.units? = some u)
    (hy : y.units? = some v) :
    (addNonneg x y).units? =
      if rounded (u + v) unitsPerOne < overflow then some (rounded (u + v) unitsPerOne)
      else none := by
  obtain ⟨m, e, rfl, hbpos, hu⟩ := exists_of_units? hx
  obtain ⟨n, f, rfl, hdpos, hv⟩ := exists_of_units? hy
  simp only [addNonneg]
  generalize ratio m e = r at hbpos hu ⊢
  generalize ratio n f = q at hdpos hv ⊢
  have hsum : rounded (r.1 * q.2 + q.1 * r.2) (r.2 * q.2) = rounded (u + v) unitsPerOne := by
    refine rounded_congr (Nat.mul_pos hbpos hdpos) unitsPerOne_pos ?_
    calc (r.1 * q.2 + q.1 * r.2) * unitsPerOne
        = r.1 * unitsPerOne * q.2 + q.1 * unitsPerOne * r.2 := by ring
      _ = (u + v) * (r.2 * q.2) := by rw [hu, hv]; ring
  rw [units?_ofRatio _ (Nat.mul_pos hbpos hdpos), hsum]

end FsidRegistry.Binary64

import Mathlib.Data.Nat.Digits.Defs
import FsidRegistry.Number.Decimal

/-!
# Texts that denote numbers

A text denotes a number by the places of its digits, and a plus sign may stand before them.  Leading zeros
are digits like others, and there is no bound on their count.

* `Number.Denotes`: the texts and their numbers.
* `Number.readDigits?_eq_some_iff`, `Number.readUnsigned?_eq_some_iff`: reading accepts these texts and no
  others, and finds their numbers.
-/

namespace FsidRegistry.Number

/-- The number that digits denote by their places, the last one being that of the ones. -/
def placeValue (digits : List (Fin 10)) : Nat := Nat.ofDigits 10 (digits.reverse.map Fin.val)

/-- The characters that digits are written with. -/
def digitChars (digits : List (Fin 10)) : List Char := digits.map fun d => Nat.digitChar d.val

/-- A text denotes a number: it is one or more digits, with a plus sign before them or without. -/
inductive Denotes : String → Nat → Prop
  | plain (digits : List (Fin 10)) (h : digits ≠ []) :
    Denotes (String.ofList (digitChars digits)) (placeValue digits)
  | plus (digits : List (Fin 10)) (h : digits ≠ []) :
    Denotes (String.ofList ('+' :: digitChars digits)) (placeValue digits)

/-! ## Digits -/

theorem digitValue_digitChar (d : Fin 10) : digitValue (Nat.digitChar d) = d := by
  rw [digitValue, Nat.toNat_digitChar_of_lt_ten d.isLt]
  exact Nat.add_sub_cancel_left 48 d

/-- A character that is a digit is written for one of the ten. -/
theorem exists_digitChar {c : Char} (h : c.isDigit = true) : ∃ d : Fin 10, Nat.digitChar d = c := by
  have hrange : 48 ≤ c.toNat ∧ c.toNat ≤ 57 := by
    simp only [Char.isDigit, ge_iff_le, UInt32.le_iff_toNat_le, Bool.and_eq_true,
      decide_eq_true_eq] at h
    exact h
  have hlt : c.toNat - 48 < 10 := by omega
  refine ⟨⟨c.toNat - 48, hlt⟩, Char.toNat_inj.mp ?_⟩
  rw [Nat.toNat_digitChar_of_lt_ten hlt]
  omega

theorem all_isDigit_iff {cs : List Char} :
    cs.all Char.isDigit = true ↔ ∃ digits, digitChars digits = cs := by
  constructor
  · intro h
    induction cs with
    | nil => exact ⟨[], rfl⟩
    | cons c cs ih =>
      rw [List.all_cons, Bool.and_eq_true] at h
      obtain ⟨d, rfl⟩ := exists_digitChar h.1
      obtain ⟨digits, rfl⟩ := ih h.2
      exact ⟨d :: digits, rfl⟩
  · rintro ⟨digits, rfl⟩
    simp [digitChars]

/-- Reading from the left, ten times what was read before, comes to the value by places. -/
theorem ofDigits_digitChars (digits : List (Fin 10)) :
    ofDigits (digitChars digits) = placeValue digits := by
  rw [ofDigits, digitChars, List.foldl_map, placeValue, Nat.ofDigits_eq_foldr, List.map_reverse,
    List.foldr_reverse, List.foldl_map]
  simp only [digitValue_digitChar, Nat.cast_id, Nat.add_comm]

/-! ## Reading -/

theorem readDigits?_eq_some_iff {cs : List Char} {n : Nat} :
    readDigits? cs = some n ↔
      ∃ digits, digits ≠ [] ∧ digitChars digits = cs ∧ placeValue digits = n := by
  constructor
  · intro h
    unfold readDigits? at h
    split at h
    · cases h
    · rename_i hcs
      rw [Bool.or_eq_true, not_or, Bool.not_eq_true, Bool.not_eq_true', Bool.not_eq_false] at hcs
      obtain ⟨digits, rfl⟩ := all_isDigit_iff.mp hcs.2
      refine ⟨digits, ?_, rfl, ?_⟩
      · rintro rfl
        cases hcs.1
      · rw [← ofDigits_digitChars]
        exact Option.some.inj h
  · rintro ⟨digits, hne, rfl, rfl⟩
    have hall : (digitChars digits).all Char.isDigit = true := all_isDigit_iff.mpr ⟨digits, rfl⟩
    have hempty : (digitChars digits).isEmpty = false := by
      rw [List.isEmpty_eq_false_iff, digitChars, ne_eq, List.map_eq_nil_iff]
      exact hne
    rw [readDigits?, hall, hempty, ofDigits_digitChars]
    rfl

/-- **Reading accepts the texts that denote a number, and finds it.** -/
theorem readUnsigned?_eq_some_iff {text : String} {n : Nat} :
    readUnsigned? text.toList = some n ↔ Denotes text n := by
  constructor
  · intro h
    unfold readUnsigned? at h
    split at h
    · rename_i cs hcs
      obtain ⟨digits, hne, rfl, rfl⟩ := readDigits?_eq_some_iff.mp h
      rw [← String.ofList_toList (s := text), hcs]
      exact .plus digits hne
    · obtain ⟨digits, hne, hcs, rfl⟩ := readDigits?_eq_some_iff.mp h
      rw [← String.ofList_toList (s := text), ← hcs]
      exact .plain digits hne
  · intro h
    cases h with
    | plus digits hne =>
      rw [String.toList_ofList]
      exact readDigits?_eq_some_iff.mpr ⟨digits, hne, rfl, rfl⟩
    | plain digits hne =>
      have hread : readDigits? (digitChars digits) = some (placeValue digits) :=
        readDigits?_eq_some_iff.mpr ⟨digits, hne, rfl, rfl⟩
      rw [String.toList_ofList, readUnsigned?, hread]
      -- No digit is written as a plus sign.
      intro cs hcs
      have hplus : ('+' :: cs).all Char.isDigit = true := all_isDigit_iff.mpr ⟨digits, hcs⟩
      cases hplus

end FsidRegistry.Number

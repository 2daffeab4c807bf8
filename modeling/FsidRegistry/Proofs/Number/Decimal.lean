import FsidRegistry.Fsid

/-!
# Numbers from their digits

A number is read back from the digits that it is written in, with the sign that a negative one has.

* `Number.readSigned?_toString`: any whole number.
* `Fsid.read?_text`, `Fsid.readIssued?_text`: an fsid, so that its text tells it (`Fsid.text_inj`).
-/

namespace FsidRegistry

namespace Number

theorem readDigits?_toDigits (n : Nat) : readDigits? (Nat.toDigits 10 n) = some n := by
  have hne : Nat.toDigits 10 n ≠ [] := Nat.toDigits_ne_nil
  have hall : (Nat.toDigits 10 n).all Char.isDigit = true := by
    rw [List.all_eq_true]
    intro c hc
    exact Nat.isDigit_of_mem_toDigits (by decide) (by decide) hc
  have hvalue : ofDigits (Nat.toDigits 10 n) = n :=
    Nat.ofDigitChars_toDigits (by decide) (by decide)
  rw [readDigits?, hall, hvalue, List.isEmpty_eq_false_iff.mpr hne]
  rfl

/-- Digits have no sign before them. -/
theorem readSigned?_of_digits {cs : List Char} (h : ∀ c ∈ cs, c.isDigit = true) :
    readSigned? cs = (readDigits? cs).map Int.ofNat := by
  have hsign : ∀ (c : Char) (ds : List Char), cs = c :: ds → c.isDigit = true :=
    fun c ds hcs => h c (hcs ▸ List.mem_cons_self)
  have hunsigned : readUnsigned? cs = readDigits? cs := by
    unfold readUnsigned?
    split
    · rename_i ds
      exact absurd (hsign '+' ds rfl) (by decide)
    · rfl
  unfold readSigned?
  split
  · rename_i ds
    exact absurd (hsign '-' ds rfl) (by decide)
  · rw [hunsigned]

/-- **A whole number is read from its text.** -/
theorem readSigned?_toString (z : Int) : readSigned? (toString z).toList = some z := by
  have htoList : ∀ n : Nat, (toString n).toList = Nat.toDigits 10 n := by
    intro n
    have hrepr : toString n = String.ofList (Nat.toDigits 10 n) := Nat.repr_eq_ofList_toDigits
    rw [hrepr, String.toList_ofList]
  cases z with
  | ofNat n =>
    have htext : toString (Int.ofNat n) = toString n := rfl
    rw [htext, htoList, readSigned?_of_digits, readDigits?_toDigits]
    · rfl
    · exact fun c hc => Nat.isDigit_of_mem_toDigits (by decide) (by decide) hc
  | negSucc n =>
    have htext : toString (Int.negSucc n) = "-" ++ toString (n + 1) := rfl
    rw [htext, String.toList_append, htoList]
    show (readDigits? (Nat.toDigits 10 (n + 1))).map (fun n => -(n : Int)) = _
    rw [readDigits?_toDigits]
    rfl

end Number

namespace Fsid

/-- **An fsid is read from its text.** -/
theorem read?_text (fsid : Fsid) : read? fsid.text = some fsid := by
  rw [read?, text, Number.readSigned?_toString, Option.bind_some, ofInt?,
    dif_pos ⟨fsid.lower, fsid.upper⟩]

theorem readIssued?_text {fsid : Fsid} (h : 1 ≤ fsid.val) : readIssued? fsid.text = some fsid := by
  rw [readIssued?, read?_text, Option.filter_some, if_pos (decide_eq_true h)]

theorem text_inj {m n : Fsid} (h : m.text = n.text) : m = n := by
  have hread := congrArg read? h
  rw [read?_text, read?_text] at hread
  exact Option.some.inj hread

theorem text_ne_empty (fsid : Fsid) : fsid.text ≠ "" := by
  intro h
  have hread := read?_text fsid
  rw [h] at hread
  cases hread

end Fsid

end FsidRegistry

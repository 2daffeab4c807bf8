import FsidRegistry.Proofs.Text.Encoded
import FsidRegistry.Text.Percent

/-!
# Percent encoding

Decoding changes a text just if the text has an escape, `%` with two hexadecimal digits behind it
(`percentDecode_encode_eq_iff`).  An escape makes the text shorter, and where there is none every byte
stands for itself.  Escapes are found among the characters of a text, and decoding works on its
bytes; the two agree, since UTF-8 has no byte below 128 in the encoding of any other character
(`hasEscape_iff`).  Keys and values of parameters also have `+` for a space (`readParameterText_eq`).
-/

namespace FsidRegistry.Text

/-! ## Bytes of characters -/

theorem toList_loop (b : ByteArray) (i : Nat) (acc : List UInt8) :
    ByteArray.toList.loop b i acc = acc.reverse ++ b.data.toList.drop i := by
  fun_induction ByteArray.toList.loop b i acc with
  | case1 i acc h ih =>
    have hi : i < b.data.toList.length := by simpa using h
    rw [ih, List.drop_eq_getElem_cons hi]
    simp [ByteArray.get!, h]
  | case2 i acc h =>
    rw [List.drop_eq_nil_of_le (by simpa using Nat.le_of_not_lt h), List.append_nil]

theorem toList_eq_data (b : ByteArray) : b.toList = b.data.toList := by
  simp [ByteArray.toList, toList_loop]

theorem mk_toArray_eq_iff {bytes : List UInt8} {b : ByteArray} :
    (⟨bytes.toArray⟩ : ByteArray) = b ↔ bytes = b.toList := by
  rw [toList_eq_data]
  constructor
  · rintro rfl
    rfl
  · rintro rfl
    rfl

theorem toList_encode (s : String) : (encode s).toList = s.toList.flatMap String.utf8EncodeChar := by
  have hbytes : encode s = s.toList.utf8Encode := String.utf8Encode_toList.symm
  rw [toList_eq_data, hbytes, List.utf8Encode, List.toList_data_toByteArray]

/-- A character is one byte, its number, or it is encoded without a byte below 128. -/
theorem utf8EncodeChar_cases (c : Char) :
    (c.toNat < 128 ∧ String.utf8EncodeChar c = [UInt8.ofNat c.toNat]) ∨
    (128 ≤ c.toNat ∧ ∀ x ∈ String.utf8EncodeChar c, 128 ≤ x.toNat) := by
  by_cases h : c.toNat < 128
  · have hle : c.val.toNat ≤ 0x7f := Nat.le_of_lt_succ h
    exact Or.inl ⟨h, if_pos hle⟩
  · have hlt : ¬ c.val.toNat ≤ 0x7f := fun hle => h (Nat.lt_succ_of_le hle)
    refine Or.inr ⟨Nat.le_of_not_lt h, ?_⟩
    intro x hx
    simp only [String.utf8EncodeChar, if_neg hlt] at hx
    split at hx
    · simp only [List.mem_cons, List.not_mem_nil, or_false] at hx
      rcases hx with rfl | rfl <;> simp only [UInt8.toNat_ofNat'] <;> omega
    · split at hx
      · simp only [List.mem_cons, List.not_mem_nil, or_false] at hx
        rcases hx with rfl | rfl | rfl <;> simp only [UInt8.toNat_ofNat'] <;> omega
      · simp only [List.mem_cons, List.not_mem_nil, or_false] at hx
        rcases hx with rfl | rfl | rfl | rfl <;> simp only [UInt8.toNat_ofNat'] <;> omega

/-- A byte below 128 is read as the character with its number. -/
theorem exists_cons_of_flatMap {cs : List Char} {x : UInt8} {bytes : List UInt8}
    (hx : x.toNat < 128) (h : cs.flatMap String.utf8EncodeChar = x :: bytes) :
    ∃ c ds, cs = c :: ds ∧ c.toNat = x.toNat ∧ ds.flatMap String.utf8EncodeChar = bytes := by
  cases cs with
  | nil => cases h
  | cons c ds =>
    rw [List.flatMap_cons] at h
    rcases utf8EncodeChar_cases c with ⟨hc, henc⟩ | ⟨-, hlarge⟩
    · rw [henc, List.singleton_append, List.cons.injEq] at h
      refine ⟨c, ds, rfl, ?_, h.2⟩
      rw [← h.1, UInt8.toNat_ofNat', Nat.mod_eq_of_lt (by omega)]
    · obtain ⟨y, ys, hy⟩ := List.exists_cons_of_ne_nil (String.utf8EncodeChar_ne_nil (c := c))
      rw [hy, List.cons_append, List.cons.injEq] at h
      have hlarge' := hlarge y (by rw [hy]; exact List.mem_cons_self)
      rw [h.1] at hlarge'
      omega

/-! ## Escapes -/

/-- A hexadecimal digit. -/
def IsHexDigit (c : Char) : Prop :=
  ('0' ≤ c ∧ c ≤ '9') ∨ ('A' ≤ c ∧ c ≤ 'F') ∨ ('a' ≤ c ∧ c ≤ 'f')

/-- Some characters have `%` with two hexadecimal digits behind it. -/
def HasEscape (cs : List Char) : Prop :=
  ∃ before a b after, cs = before ++ '%' :: a :: b :: after ∧ IsHexDigit a ∧ IsHexDigit b

/-- Some bytes have the byte of `%` with those of two hexadecimal digits behind it. -/
def HasEscapeBytes (bytes : List UInt8) : Prop :=
  ∃ before a b after, bytes = before ++ 0x25 :: a :: b :: after ∧
    (hexDigit? a).isSome ∧ (hexDigit? b).isSome

theorem isSome_hexDigit? (x : UInt8) : (hexDigit? x).isSome ↔
    (0x30 ≤ x.toNat ∧ x.toNat ≤ 0x39) ∨ (0x41 ≤ x.toNat ∧ x.toNat ≤ 0x46) ∨
      (0x61 ≤ x.toNat ∧ x.toNat ≤ 0x66) := by
  simp only [hexDigit?, Bool.and_eq_true, decide_eq_true_eq, UInt8.le_iff_toNat_le]
  split
  · simp_all
  · split
    · simp_all
    · split <;> simp_all

theorem isHexDigit_iff {c : Char} {x : UInt8} (h : c.toNat = x.toNat) :
    IsHexDigit c ↔ (hexDigit? x).isSome := by
  simp only [isSome_hexDigit?, IsHexDigit, Char.le_def, UInt32.le_iff_toNat_le, ← h]
  rfl

theorem HasEscapeBytes.cons {bytes : List UInt8} (h : HasEscapeBytes bytes) (x : UInt8) :
    HasEscapeBytes (x :: bytes) := by
  obtain ⟨before, a, b, after, rfl, ha, hb⟩ := h
  exact ⟨x :: before, a, b, after, rfl, ha, hb⟩

/-- An escape is at the front or behind it. -/
theorem hasEscapeBytes_cons_iff {x : UInt8} {bytes : List UInt8} : HasEscapeBytes (x :: bytes) ↔
    (∃ a b after, x = 0x25 ∧ bytes = a :: b :: after ∧ (hexDigit? a).isSome ∧ (hexDigit? b).isSome) ∨
      HasEscapeBytes bytes := by
  constructor
  · rintro ⟨before, a, b, after, h, ha, hb⟩
    cases before with
    | nil =>
      obtain ⟨rfl, rfl⟩ := List.cons.inj h
      exact Or.inl ⟨a, b, after, rfl, rfl, ha, hb⟩
    | cons y before =>
      obtain ⟨rfl, rfl⟩ := List.cons.inj h
      exact Or.inr ⟨before, a, b, after, rfl, ha, hb⟩
  · rintro (⟨a, b, after, rfl, rfl, ha, hb⟩ | h)
    · exact ⟨[], a, b, after, rfl, ha, hb⟩
    · exact h.cons x

theorem HasEscapeBytes.of_append {xs bytes : List UInt8} (hxs : ∀ x ∈ xs, x ≠ 0x25)
    (h : HasEscapeBytes (xs ++ bytes)) : HasEscapeBytes bytes := by
  induction xs with
  | nil => exact h
  | cons x xs ih =>
    rcases hasEscapeBytes_cons_iff.mp h with ⟨-, -, -, hx, -⟩ | h
    · exact absurd hx (hxs x List.mem_cons_self)
    · exact ih (fun y hy => hxs y (List.mem_cons_of_mem x hy)) h

/-- A hexadecimal digit is encoded as one. -/
theorem IsHexDigit.encoded {c : Char} (h : IsHexDigit c) :
    ∃ x, String.utf8EncodeChar c = [x] ∧ (hexDigit? x).isSome := by
  rcases utf8EncodeChar_cases c with ⟨hc, henc⟩ | ⟨hc, -⟩
  · refine ⟨_, henc, (isHexDigit_iff ?_).mp h⟩
    rw [UInt8.toNat_ofNat', Nat.mod_eq_of_lt (by omega)]
  · simp only [IsHexDigit, Char.le_def, UInt32.le_iff_toNat_le] at h
    have htoNat : c.toNat = c.val.toNat := rfl
    simp at h
    omega

/-- Characters have an escape just if their bytes have one. -/
theorem hasEscape_iff {cs : List Char} :
    HasEscape cs ↔ HasEscapeBytes (cs.flatMap String.utf8EncodeChar) := by
  constructor
  · rintro ⟨before, a, b, after, rfl, ha, hb⟩
    obtain ⟨x, hx, hax⟩ := ha.encoded
    obtain ⟨y, hy, hby⟩ := hb.encoded
    refine ⟨before.flatMap String.utf8EncodeChar, x, y, after.flatMap String.utf8EncodeChar, ?_,
      hax, hby⟩
    simp only [List.flatMap_append, List.flatMap_cons, hx, hy]
    rfl
  · intro h
    induction cs with
    | nil =>
      obtain ⟨before, a, b, after, h, -⟩ := h
      simp at h
    | cons c cs ih =>
      have hlater (h : HasEscapeBytes (cs.flatMap String.utf8EncodeChar)) : HasEscape (c :: cs) := by
        obtain ⟨before, a, b, after, rfl, ha, hb⟩ := ih h
        exact ⟨c :: before, a, b, after, rfl, ha, hb⟩
      rw [List.flatMap_cons] at h
      rcases utf8EncodeChar_cases c with ⟨hc, henc⟩ | ⟨-, hlarge⟩
      · rw [henc, List.singleton_append] at h
        rcases hasEscapeBytes_cons_iff.mp h with ⟨x, y, after, hpercent, hbytes, hx, hy⟩ | h
        · have hx' := (isSome_hexDigit? x).mp hx
          have hy' := (isSome_hexDigit? y).mp hy
          obtain ⟨a, ds, rfl, ha, hds⟩ := exists_cons_of_flatMap (by omega) hbytes
          obtain ⟨b, es, rfl, hb, -⟩ := exists_cons_of_flatMap (by omega) hds
          have htoNat := congrArg UInt8.toNat hpercent
          rw [UInt8.toNat_ofNat', Nat.mod_eq_of_lt (by omega)] at htoNat
          have hchar : c = '%' := Char.toNat_inj.mp htoNat
          subst hchar
          exact ⟨[], a, b, es, rfl, (isHexDigit_iff ha).mpr hx, (isHexDigit_iff hb).mpr hy⟩
        · exact hlater h
      · refine hlater (h.of_append ?_)
        rintro x hx rfl
        exact absurd (hlarge _ hx) (by decide)

/-! ## Decoding -/

theorem length_percentDecode_le (bytes : List UInt8) :
    (percentDecode bytes).length ≤ bytes.length := by
  fun_induction percentDecode bytes with
  | case1 a b rest x y hb ha ih =>
    simp only [List.length_cons]
    omega
  | case2 a b rest _ ih =>
    simp only [List.length_cons] at ih ⊢
    omega
  | case3 x rest _ ih =>
    simp only [List.length_cons]
    omega
  | case4 => exact Nat.le_refl _

/-- An escape makes bytes shorter. -/
theorem length_percentDecode_lt {bytes : List UInt8} (h : HasEscapeBytes bytes) :
    (percentDecode bytes).length < bytes.length := by
  fun_induction percentDecode bytes with
  | case1 a b rest x y hb ha ih =>
    have hle := length_percentDecode_le rest
    simp only [List.length_cons]
    omega
  | case2 a b rest hnot ih =>
    rcases hasEscapeBytes_cons_iff.mp h with ⟨a', b', after, -, hcons, ha, hb⟩ | h
    · obtain ⟨rfl, htail⟩ := List.cons.inj hcons
      obtain ⟨rfl, -⟩ := List.cons.inj htail
      exact absurd (Option.get_mem hb) (hnot _ _ (Option.get_mem ha))
    · have hlt := ih h
      simp only [List.length_cons] at hlt ⊢
      omega
  | case3 x rest hshort ih =>
    rcases hasEscapeBytes_cons_iff.mp h with ⟨a, b, after, hx, hcons, -⟩ | h
    · exact absurd hcons (hshort a b after hx)
    · have hlt := ih h
      simp only [List.length_cons]
      omega
  | case4 =>
    obtain ⟨before, a, b, after, h, -⟩ := h
    simp at h

/-- Without an escape every byte stands for itself. -/
theorem percentDecode_eq_self {bytes : List UInt8} (h : ¬ HasEscapeBytes bytes) :
    percentDecode bytes = bytes := by
  fun_induction percentDecode bytes with
  | case1 a b rest x y hb ha ih =>
    exact absurd ⟨[], a, b, rest, rfl, Option.isSome_of_mem ha, Option.isSome_of_mem hb⟩ h
  | case2 a b rest _ ih => rw [ih (mt (HasEscapeBytes.cons · _) h)]
  | case3 x rest _ ih => rw [ih (mt (HasEscapeBytes.cons · _) h)]
  | case4 => rfl

/-- **A text stands for itself just if it has no escape.** -/
theorem percentDecode_encode_eq_iff (s : String) :
    percentDecode (encode s).toList = (encode s).toList ↔ ¬ HasEscape s.toList := by
  rw [hasEscape_iff, ← toList_encode]
  constructor
  · intro heq h
    have hlt := length_percentDecode_lt h
    rw [heq] at hlt
    exact Nat.lt_irrefl _ hlt
  · exact percentDecode_eq_self

/-! ## Parameters -/

theorem not_hasEscape_of_not_mem {cs : List Char} (h : '%' ∉ cs) : ¬ HasEscape cs := by
  rintro ⟨before, a, b, after, rfl, -⟩
  simp at h

/-- A key or a value that has neither `+` nor an escape stands for itself. -/
theorem readParameterText_eq {cs : List Char} (hplus : '+' ∉ cs) (hescape : ¬ HasEscape cs) :
    readParameterText cs = String.ofList cs := by
  have hmap : cs.map (fun c => if c == '+' then ' ' else c) = cs := by
    refine (List.map_congr_left ?_).trans cs.map_id
    intro c hc
    refine if_neg ?_
    rw [beq_iff_eq]
    rintro rfl
    exact hplus hc
  have hdecode := (percentDecode_encode_eq_iff (String.ofList cs)).mpr
    (by rwa [String.toList_ofList])
  rw [readParameterText, hmap, mk_toArray_eq_iff.mpr hdecode, decodeReplacing_encode]

end FsidRegistry.Text

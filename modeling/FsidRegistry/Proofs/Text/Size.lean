import FsidRegistry.Text.Quoted
import FsidRegistry.Text.Uppercase
import FsidRegistry.Text.Utf8

/-!
# How many bytes a text has

Quoting and upper case make a text longer, though not by much.  These bounds tell that a response
fits into a packet.

* `Text.utf8ByteSize_flatMap_le`: a text that is rewritten character by character.
* `Text.utf8ByteSize_quoted_uppercase_le`: the quoted upper case of a text.
* `Text.utf8ByteSize_toString_le`: a number of ten digits.
-/

namespace FsidRegistry.Text

theorem utf8ByteSize_cons (c : Char) (cs : List Char) :
    (String.ofList (c :: cs)).utf8ByteSize = c.utf8Size + (String.ofList cs).utf8ByteSize := by
  rw [← List.singleton_append, String.ofList_append, String.utf8ByteSize_append,
    ← String.singleton_eq_ofList, String.utf8ByteSize_singleton]

theorem utf8ByteSize_ofList_append (cs ds : List Char) :
    (String.ofList (cs ++ ds)).utf8ByteSize =
      (String.ofList cs).utf8ByteSize + (String.ofList ds).utf8ByteSize := by
  rw [String.ofList_append, String.utf8ByteSize_append]

theorem utf8ByteSize_le_of_sublist {cs ds : List Char} (h : cs.Sublist ds) :
    (String.ofList cs).utf8ByteSize ≤ (String.ofList ds).utf8ByteSize := by
  induction h with
  | slnil => exact Nat.le_refl _
  | cons c _ ih =>
    rw [utf8ByteSize_cons]
    omega
  | cons_cons c _ ih =>
    rw [utf8ByteSize_cons, utf8ByteSize_cons]
    omega

/-- A text each of whose characters is replaced by at most `k` times as many bytes. -/
theorem utf8ByteSize_flatMap_le {f : Char → List Char} {k : Nat}
    (h : ∀ c, (String.ofList (f c)).utf8ByteSize ≤ k * c.utf8Size) (cs : List Char) :
    (String.ofList (cs.flatMap f)).utf8ByteSize ≤ k * (String.ofList cs).utf8ByteSize := by
  induction cs with
  | nil => exact Nat.zero_le _
  | cons c cs ih =>
    rw [List.flatMap_cons, utf8ByteSize_ofList_append, utf8ByteSize_cons, Nat.mul_add]
    have hc := h c
    omega

/-- The bytes of a text that takes at most `k` for each character. -/
theorem utf8ByteSize_flatMap_le_length {f : Char → List Char} {k : Nat}
    (h : ∀ c, (String.ofList (f c)).utf8ByteSize ≤ k) (cs : List Char) :
    (String.ofList (cs.flatMap f)).utf8ByteSize ≤ k * cs.length := by
  induction cs with
  | nil => exact Nat.zero_le _
  | cons c cs ih =>
    rw [List.flatMap_cons, utf8ByteSize_ofList_append, List.length_cons, Nat.mul_succ]
    have hc := h c
    omega

/-! ## Numbers -/

theorem utf8Size_digitChar (n : Nat) : n.digitChar.utf8Size = 1 := by
  rcases Nat.lt_or_ge n 16 with hn | hn
  · have hall : ∀ n < 16, n.digitChar.utf8Size = 1 := by decide
    exact hall n hn
  · rw [Nat.digitChar_eq_star.mpr hn]
    decide

theorem utf8ByteSize_toDigits {b : Nat} (hb : 1 < b) (n : Nat) :
    (String.ofList (Nat.toDigits b n)).utf8ByteSize = (Nat.toDigits b n).length := by
  induction n using Nat.strongRecOn with
  | _ n ih =>
    rw [Nat.toDigits_eq_if hb]
    split
    · rw [utf8ByteSize_cons, utf8Size_digitChar]
      rfl
    · rename_i hn
      have hlt : n / b < n := Nat.div_lt_self (by omega) hb
      rw [utf8ByteSize_ofList_append, ih _ hlt, utf8ByteSize_cons, utf8Size_digitChar,
        List.length_append]
      rfl

theorem utf8ByteSize_toString_le {n : Nat} (hn : n < 10000000000) :
    (toString n).utf8ByteSize ≤ 10 := by
  have hrepr : toString n = String.ofList (Nat.toDigits 10 n) := Nat.repr_eq_ofList_toDigits
  rw [hrepr, utf8ByteSize_toDigits (by decide)]
  exact (Nat.length_toDigits_le_iff (by decide) (by decide)).mpr hn

/-! ## Quoted texts -/

theorem utf8ByteSize_codePointEscape_le (c : Char) :
    (String.ofList (codePointEscape c)).utf8ByteSize ≤ 10 := by
  have hlt : c.toNat < 16777216 := by
    rcases c.valid with h | h
    · exact Nat.lt_trans h (by decide)
    · exact Nat.lt_trans h.2 (by decide)
  have hdigits : (Nat.toDigits 16 c.toNat).length ≤ 6 :=
    (Nat.length_toDigits_le_iff (by decide) (by decide)).mpr hlt
  rw [codePointEscape, utf8ByteSize_ofList_append, utf8ByteSize_ofList_append,
    utf8ByteSize_toDigits (by decide)]
  have hopen : (String.ofList ['\\', 'u', '\x7b']).utf8ByteSize = 3 := by decide
  have hclose : (String.ofList ['\x7d']).utf8ByteSize = 1 := by decide
  omega

theorem utf8ByteSize_escapeChar_le (c : Char) :
    (String.ofList (escapeChar c)).utf8ByteSize ≤ 10 := by
  have hself : (String.ofList [c]).utf8ByteSize ≤ 10 := by
    rw [utf8ByteSize_cons]
    have := c.utf8Size_le_four
    show c.utf8Size + 0 ≤ 10
    omega
  unfold escapeChar
  repeat' split
  all_goals first
    | decide
    | exact utf8ByteSize_codePointEscape_le c
    | exact hself

theorem length_uppercaseExpansions : ∀ e ∈ uppercaseExpansions, e.2.length ≤ 3 := by
  decide

/-- Only characters of at least two bytes turn into more than one. -/
theorem length_uppercaseChar_le (c : Char) :
    2 * (uppercaseChar c).length ≤ 3 * c.utf8Size := by
  have hpos := c.utf8Size_pos
  unfold uppercaseChar
  split
  · show 2 * 1 ≤ _
    omega
  · rename_i hlarge
    have htwo : 2 ≤ c.utf8Size := by
      rcases Nat.lt_or_ge c.utf8Size 2 with h | h
      · have hone : c.utf8Size = 1 := by omega
        exact absurd (Char.utf8Size_eq_one_iff.mp hone) (by
          intro hle
          have := UInt32.le_iff_toNat_le.mp hle
          exact hlarge (Nat.lt_succ_of_le this))
      · exact h
    split
    · rename_i e cs he
      have hlen : cs.length ≤ 3 := length_uppercaseExpansions _ (List.mem_of_find?_eq_some he)
      rw [List.length_map]
      omega
    · split <;> show 2 * 1 ≤ _ <;> omega

theorem uppercaseExpansions_ne_nil : ∀ e ∈ uppercaseExpansions, e.2 ≠ [] := by
  decide

theorem uppercaseChar_ne_nil (c : Char) : uppercaseChar c ≠ [] := by
  unfold uppercaseChar
  split
  · simp
  · split
    · rename_i e cs he
      simpa using uppercaseExpansions_ne_nil _ (List.mem_of_find?_eq_some he)
    · split <;> simp

/-- Only the empty text has an empty upper case. -/
theorem uppercase_eq_empty_iff (s : String) : uppercase s = "" ↔ s = "" := by
  rw [uppercase, String.ofList_eq_empty_iff, List.flatMap_eq_nil_iff, ← String.toList_eq_nil_iff]
  constructor
  · intro h
    refine List.eq_nil_iff_forall_not_mem.mpr fun c hc => uppercaseChar_ne_nil c (h c hc)
  · rintro h c hc
    simp [h] at hc

theorem utf8ByteSize_escape_uppercaseChar_le (c : Char) :
    (String.ofList ((uppercaseChar c).flatMap escapeChar)).utf8ByteSize ≤ 15 * c.utf8Size := by
  have hbytes := utf8ByteSize_flatMap_le_length utf8ByteSize_escapeChar_le (uppercaseChar c)
  have hlen := length_uppercaseChar_le c
  omega

/-- The quoted upper case of a text has at most fifteen times its bytes, and the quotes. -/
theorem utf8ByteSize_quoted_uppercase_le (s : String) :
    (quoted (uppercase s)).utf8ByteSize ≤ 15 * s.utf8ByteSize + 2 := by
  have hall := utf8ByteSize_flatMap_le utf8ByteSize_escape_uppercaseChar_le s.toList
  rw [String.ofList_toList] at hall
  rw [quoted, uppercase, String.toList_ofList, List.flatMap_assoc, List.cons_append,
    utf8ByteSize_cons, utf8ByteSize_ofList_append]
  have hopen : ('"' : Char).utf8Size = 1 := by decide
  have hclose : (String.ofList ['"']).utf8ByteSize = 1 := by decide
  omega

/-! ## Encoded texts -/

theorem size_encode (s : String) : (encode s).size = s.utf8ByteSize := rfl

theorem utf8ByteSize_of_decode? {b : ByteArray} {s : String} (h : decode? b = some s) :
    s.utf8ByteSize = b.size := by
  unfold decode? String.fromUTF8? at h
  split at h
  · cases h
    rfl
  · cases h

end FsidRegistry.Text

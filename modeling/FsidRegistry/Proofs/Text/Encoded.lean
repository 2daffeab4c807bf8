import FsidRegistry.Proofs.Text.Size

/-!
# Encoded texts

A text comes back from its bytes, also by the reading that replaces what is ill-formed.

* `Text.decode?_encode`, `Text.decodeReplacing_encode`: the bytes of a text are read as the text.
* `Text.extract_encode_append`: the first bytes of two texts are those of the first one.
-/

namespace FsidRegistry.Text

theorem decode?_encode (s : String) : decode? (encode s) = some s := by
  have hvalid : (encode s).IsValidUTF8 := s.isValidUTF8
  unfold decode? String.fromUTF8?
  rw [dif_pos hvalid]
  rfl

theorem decode?_eq_some_iff {b : ByteArray} {s : String} : decode? b = some s ↔ b = encode s := by
  constructor
  · intro h
    unfold decode? String.fromUTF8? at h
    split at h
    · cases h
      rfl
    · cases h
  · rintro rfl
    exact decode?_encode s

theorem encode_append (s t : String) : encode (s ++ t) = encode s ++ encode t :=
  String.toByteArray_append

/-- The bytes of two texts begin with those of the first one. -/
theorem extract_encode_append (s t : String) :
    (encode (s ++ t)).extract 0 s.utf8ByteSize = encode s := by
  rw [encode_append, ← size_encode, ByteArray.extract_append_eq_left rfl]

/-- The characters that begin behind some bytes. -/
theorem replacingFrom_append (b : ByteArray) (cs : List Char) :
    replacingFrom (b ++ cs.utf8Encode) b.size = cs := by
  induction cs generalizing b with
  | nil =>
    unfold replacingFrom
    rw [List.utf8Encode_nil, ByteArray.append_empty, if_neg (Nat.lt_irrefl _)]
  | cons c cs ih =>
    have hsize : [c].utf8Encode.size = c.utf8Size := by
      rw [List.utf8Encode_singleton]
      simp
    have hpos := c.utf8Size_pos
    have hat : (b ++ (c :: cs).utf8Encode).utf8DecodeChar? b.size = some c := by
      rw [ByteArray.utf8DecodeChar?_eq_utf8DecodeChar?_extract, ByteArray.size_append,
        ByteArray.extract_append_eq_right rfl rfl]
      exact List.utf8DecodeChar?_utf8Encode_cons
    have hrest := ih (b ++ [c].utf8Encode)
    rw [ByteArray.size_append, hsize, ByteArray.append_assoc, ← List.utf8Encode_cons] at hrest
    have hlt : b.size < (b ++ (c :: cs).utf8Encode).size := by
      rw [ByteArray.size_append, List.utf8Encode_cons, ByteArray.size_append]
      omega
    unfold replacingFrom
    rw [if_pos hlt, hat]
    exact congrArg (c :: ·) hrest

/-- What is well-formed is not replaced. -/
theorem decodeReplacing_encode (s : String) : decodeReplacing (encode s) = s := by
  have hall := replacingFrom_append .empty s.toList
  rw [ByteArray.empty_append, String.utf8Encode_toList] at hall
  have hfrom : replacingFrom (encode s) 0 = s.toList := hall
  rw [decodeReplacing, hfrom, String.ofList_toList]

end FsidRegistry.Text

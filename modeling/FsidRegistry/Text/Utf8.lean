/-!
UTF-8: text as bytes, bytes as text if they are well formed, and bytes as text with every
ill-formed stretch replaced by U+FFFD.
-/

namespace FsidRegistry.Text

/-- The bytes of a text. -/
def encode (s : String) : ByteArray := s.toUTF8

/-- The text that the bytes are the encoding of, if there is one. -/
def decode? (b : ByteArray) : Option String := String.fromUTF8? b

/-- The second bytes that may follow the lead byte of a sequence of at least three bytes. The bounds
are narrower than `80 … BF` where a wider choice would encode a surrogate, a code point above
`10FFFF`, or a code point that has a shorter encoding. -/
def secondByteRange (lead : UInt8) : UInt8 × UInt8 :=
  if lead == 0xE0 then (0xA0, 0xBF)
  else if lead == 0xED then (0x80, 0x9F)
  else if lead == 0xF0 then (0x90, 0xBF)
  else if lead == 0xF4 then (0x80, 0x8F)
  else (0x80, 0xBF)

/-- How many bytes from `i` on form the longest start of a sequence that goes wrong: at least one. -/
def illFormedLength (b : ByteArray) (i : Nat) : Nat :=
  let lead := b[i]?.getD 0
  let within (r : UInt8 × UInt8) (j : Nat) : Bool :=
    match b[j]? with
    | some x => r.1 ≤ x && x ≤ r.2
    | none => false
  if lead < 0xE0 || 0xF4 < lead then 1
  else if !within (secondByteRange lead) (i + 1) then 1
  else if lead < 0xF0 then 2
  else if !within (0x80, 0xBF) (i + 2) then 2
  else 3

theorem illFormedLength_pos (b : ByteArray) (i : Nat) : 0 < illFormedLength b i := by
  unfold illFormedLength
  dsimp only
  repeat' split
  all_goals decide

/-- The characters from byte `i` on, with U+FFFD for each ill-formed stretch. -/
def replacingFrom (b : ByteArray) (i : Nat) : List Char :=
  if i < b.size then
    match b.utf8DecodeChar? i with
    | some c => c :: replacingFrom b (i + c.utf8Size)
    | none => '\uFFFD' :: replacingFrom b (i + illFormedLength b i)
  else []
termination_by b.size - i
decreasing_by
  · have := c.utf8Size_pos; omega
  · have := illFormedLength_pos b i; omega

/-- The first byte from `i` on at which no well-formed sequence starts. -/
def illFormedFrom (b : ByteArray) (i : Nat) : Option Nat :=
  if i < b.size then
    match b.utf8DecodeChar? i with
    | some c => illFormedFrom b (i + c.utf8Size)
    | none => some i
  else none
termination_by b.size - i
decreasing_by have := c.utf8Size_pos; omega

/-- What is wrong with bytes that are not UTF-8: the first ill-formed stretch, which the end of the bytes
may have cut short. -/
def illFormedMessage (b : ByteArray) : String :=
  let i := (illFormedFrom b 0).getD 0
  let n := illFormedLength b i
  if i + n < b.size || !isLead (b[i]?.getD 0) then
    "invalid utf-8 sequence of " ++ toString n ++ " bytes from index " ++ toString i
  else "incomplete utf-8 byte sequence from index " ++ toString i
where
  /-- Whether a byte starts a sequence of more than one byte. -/
  isLead (x : UInt8) : Bool := 0xC2 ≤ x && x ≤ 0xF4

/-- The text of the bytes, with U+FFFD for each ill-formed stretch. -/
def decodeReplacing (b : ByteArray) : String := String.ofList (replacingFrom b 0)

end FsidRegistry.Text

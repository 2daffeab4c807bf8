/-!
Blank characters and the text between them. Blank is every character with the Unicode property
`White_Space`.
-/

namespace FsidRegistry.Text

/-- The blank code points as closed ranges, in increasing order. -/
def blankRanges : List (Nat × Nat) :=
  [(0x09, 0x0D), (0x20, 0x20), (0x85, 0x85), (0xA0, 0xA0), (0x1680, 0x1680), (0x2000, 0x200A),
    (0x2028, 0x2029), (0x202F, 0x202F), (0x205F, 0x205F), (0x3000, 0x3000)]

/-- Whether `c` is blank. -/
def isBlank (c : Char) : Bool :=
  blankRanges.any fun r => r.1 ≤ c.toNat && c.toNat ≤ r.2

/-- Drops the elements at both ends that satisfy `p`. -/
def trimEnds {α : Type} (p : α → Bool) (xs : List α) : List α :=
  ((xs.dropWhile p).reverse.dropWhile p).reverse

/-- The text without the blanks at its two ends. -/
def trimBlanks (s : String) : String :=
  String.ofList (trimEnds isBlank s.toList)

end FsidRegistry.Text

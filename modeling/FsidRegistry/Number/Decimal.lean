/-!
Whole numbers in decimal. Reading accepts one or more ASCII digits of any count, leading zeros
included, after an optional sign; nothing else, in particular no blanks and no separators.
-/

namespace FsidRegistry.Number

/-- The value of one ASCII digit. -/
def digitValue (c : Char) : Nat := c.toNat - '0'.toNat

/-- The number that a list of ASCII digits denotes. -/
def ofDigits (cs : List Char) : Nat :=
  cs.foldl (fun n c => 10 * n + digitValue c) 0

/-- Reads one or more digits. -/
def readDigits? (cs : List Char) : Option Nat :=
  if cs.isEmpty || !cs.all Char.isDigit then none else some (ofDigits cs)

/-- Reads digits after an optional plus sign. -/
def readUnsigned? : List Char → Option Nat
  | '+' :: cs => readDigits? cs
  | cs => readDigits? cs

/-- Reads digits after an optional sign. -/
def readSigned? : List Char → Option Int
  | '-' :: cs => (readDigits? cs).map fun n => -(n : Int)
  | cs => (readUnsigned? cs).map Int.ofNat

/-- Reads an unsigned number below `2 ^ 32`. -/
def readWord? (s : String) : Option Nat :=
  (readUnsigned? s.toList).filter (· ≤ 4294967295)

end FsidRegistry.Number

import FsidRegistry.Text.Utf8

/-!
Percent encoding, as it is read: `%` and two hexadecimal digits stand for one byte, any other `%` for
itself. Parameters of the form `key=value`, joined by `&`, are also written with `+` for a space.
-/

namespace FsidRegistry.Text

/-- The value of a hexadecimal digit. -/
def hexDigit? (x : UInt8) : Option UInt8 :=
  if 0x30 ≤ x && x ≤ 0x39 then some (x - 0x30)
  else if 0x41 ≤ x && x ≤ 0x46 then some (x - 0x41 + 10)
  else if 0x61 ≤ x && x ≤ 0x66 then some (x - 0x61 + 10)
  else none

/-- The bytes that percent-encoded bytes stand for. -/
def percentDecode : List UInt8 → List UInt8
  | 0x25 :: a :: b :: rest =>
    match hexDigit? a, hexDigit? b with
    | some x, some y => (x * 16 + y) :: percentDecode rest
    | _, _ => 0x25 :: percentDecode (a :: b :: rest)
  | x :: rest => x :: percentDecode rest
  | [] => []

/-- The text of a key or a value among parameters. -/
def readParameterText (s : List Char) : String :=
  let bytes := (encode (String.ofList (s.map fun c => if c == '+' then ' ' else c))).toList
  decodeReplacing ⟨(percentDecode bytes).toArray⟩

/-- Reads parameters. Empty ones are left out, and a key may lack its value. -/
def readParameters (s : String) : List (String × String) :=
  ((s.toList.splitOn '&').filter (· ≠ [])).map fun cs =>
    (readParameterText (cs.takeWhile (· != '=')),
      readParameterText ((cs.dropWhile (· != '=')).drop 1))

end FsidRegistry.Text

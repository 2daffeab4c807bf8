import FsidRegistry.Binary64.Decimal
import FsidRegistry.Toml.Scanner
import FsidRegistry.Toml.Value

/-!
The literals of TOML: strings in four notations, integers in four bases, floats, booleans, and dates
and times.
-/

namespace FsidRegistry.Toml

open Scanner

/-- Whether a character is a blank inside a line. -/
def isLineBlank (c : Char) : Bool := c == ' ' || c == '\t'

/-- Whether a character may stand in a comment: all but the controls. -/
def isCommentChar (c : Char) : Bool := c == '\t' || (' ' ≤ c && c != '\x7F')

/-- Takes the blanks inside a line. -/
def blanks : Scanner Unit := do let _ ← takeWhile isLineBlank

/-- Takes the end of a line. -/
def newline : Scanner Unit := string "\n" <|> string "\r\n"

/-- Takes a comment up to the end of its line. -/
def comment : Scanner Unit := do
  let _ ← char '#'
  let _ ← takeWhile isCommentChar

/-! ## Strings -/

/-- The value of a hexadecimal digit. -/
def hexValue (c : Char) : Nat :=
  if c.isDigit then c.toNat - '0'.toNat else c.toLower.toNat - 'a'.toNat + 10

/-- Whether a character is a hexadecimal digit. -/
def isHexDigit (c : Char) : Bool :=
  c.isDigit || ('a' ≤ c && c ≤ 'f') || ('A' ≤ c && c ≤ 'F')

/-- The character whose number is written with exactly `n` hexadecimal digits. -/
def codePoint (n : Nat) : Scanner Char := fun cs =>
  let front := cs.take n
  if front.length == n && front.all isHexDigit then
    let k := front.foldl (fun k c => 16 * k + hexValue c) 0
    if k.isValidChar then some (Char.ofNat k, cs.drop n) else none
  else none

/-- An escape sequence after its backslash. -/
def escaped : Scanner Char := do
  match ← satisfy fun _ => true with
  | 'b' => return '\x08'
  | 't' => return '\t'
  | 'n' => return '\n'
  | 'f' => return '\x0C'
  | 'r' => return '\r'
  | '"' => return '"'
  | '\\' => return '\\'
  | 'u' => codePoint 4
  | 'U' => codePoint 8
  | _ => failure

/-- Whether a character stands for itself between quotation marks. -/
def isBasicChar (c : Char) : Bool := isCommentChar c && c != '"' && c != '\\'

/-- Whether a character stands for itself between apostrophes. -/
def isLiteralChar (c : Char) : Bool := isCommentChar c && c != '\''

/-- A string in quotation marks. -/
def basicString : Scanner String := do
  let _ ← char '"'
  let parts ← many (takeSome isBasicChar <|> (char '\\' *> ((fun c => [c]) <$> escaped)))
  let _ ← char '"'
  return String.ofList parts.flatten

/-- A string in apostrophes. -/
def literalString : Scanner String := do
  let _ ← char '\''
  let cs ← takeWhile isLiteralChar
  let _ ← char '\''
  return String.ofList cs

/-- A line break inside a string. -/
def lineBreak : Scanner (List Char) := do
  newline
  return ['\n']

/-- A backslash at the end of a line, with all blanks and line breaks after it. -/
def continuation : Scanner (List Char) := do
  let _ ← char '\\'
  blanks
  newline
  let _ ← many (newline <|> do let _ ← takeSome isLineBlank)
  return []

/-- One or two quotes that do not end a string of several lines. -/
def innerQuotes (quote : Char) : Scanner (List Char) := fun cs =>
  let quotes := cs.takeWhile (· == quote)
  if 1 ≤ quotes.length && quotes.length ≤ 2 then some (quotes, cs.drop quotes.length) else none

/-- The end of a string of several lines: three quotes, with up to two before them that belong to the
string. -/
def closingQuotes (quote : Char) : Scanner (List Char) := fun cs =>
  let n := min 5 (cs.takeWhile (· == quote)).length
  if 3 ≤ n then some (List.replicate (n - 3) quote, cs.drop n) else none

/-- A string of several lines. A line break right at its start is dropped. -/
def multiline (quote : Char) (content : Scanner (List Char)) : Scanner String := do
  string (String.ofList [quote, quote, quote])
  let _ ← option newline
  let parts ← many (content <|> lineBreak <|> innerQuotes quote)
  let rest ← closingQuotes quote
  return String.ofList (parts.flatten ++ rest)

/-- A string of one line, as it may also stand for a key. -/
def lineString : Scanner String := basicString <|> literalString

/-- A string. -/
def anyString : Scanner String :=
  multiline '"' (takeSome isBasicChar <|> continuation <|> (char '\\' *> ((fun c => [c]) <$> escaped)))
  <|> multiline '\'' (takeSome isLiteralChar)
  <|> lineString

/-! ## Numbers -/

/-- Digits that satisfy `p`, each but the first possibly after an underscore. -/
def spacedDigits (p : Char → Bool) : Scanner (List Char) := do
  let first ← satisfy p
  let rest ← many (satisfy p <|> (char '_' *> satisfy p))
  return first :: rest

/-- An optional sign. -/
def sign : Scanner (List Char) := do
  return (← option (char '+' <|> char '-')).toList

/-- A whole number with an optional sign and without leading zeros. -/
def wholeNumber : Scanner (List Char) := do
  let s ← sign
  let ds ← (char '0' *> pure ['0']) <|> spacedDigits Char.isDigit
  return s ++ ds

/-- The exponent of a float. -/
def exponent : Scanner (List Char) := do
  let _ ← char 'e' <|> char 'E'
  let s ← sign
  let ds ← spacedDigits Char.isDigit
  return 'e' :: s ++ ds

/-- The fraction of a float. -/
def fraction : Scanner (List Char) := do
  let _ ← char '.'
  let ds ← spacedDigits Char.isDigit
  return '.' :: ds

/-- A float with digits. One beyond the largest is refused, one below the smallest is negative infinity. -/
def finiteFloat : Scanner Binary64 := do
  let whole ← wholeNumber
  let tail ← exponent <|> do
    let f ← fraction
    return f ++ (← option exponent).getD []
  match Binary64.read? (String.ofList (whole ++ tail)) with
  | some (.infinite false) => failure
  | some x => return x
  | none => failure

/-- An infinity, or what is not a number. -/
def specialFloat : Scanner Binary64 := do
  let s ← sign
  (string "inf" *> pure (.infinite (s == ['-']))) <|> (string "nan" *> pure .nan)

/-- The integer in a base whose marker is `marker`. It has no sign. -/
def basedInteger (marker : String) (base : Nat) (p : Char → Bool) : Scanner Int := do
  string marker
  let ds ← spacedDigits p
  return ds.foldl (fun k c => base * k + hexValue c) 0

/-- A decimal integer. -/
def decimalInteger : Scanner Int := do
  match Number.readSigned? (← wholeNumber) with
  | some n => return n
  | none => failure

/-- An integer. It has to fit 64 bits. -/
def integer : Scanner Int := do
  let n ← basedInteger "0x" 16 isHexDigit
    <|> basedInteger "0o" 8 (fun c => '0' ≤ c && c ≤ '7')
    <|> basedInteger "0b" 2 (fun c => c == '0' || c == '1')
    <|> decimalInteger
  if -9223372036854775808 ≤ n && n ≤ 9223372036854775807 then return n else failure

/-! ## Dates and times -/

/-- The days of a month. -/
def daysOf (year month : Nat) : Nat :=
  if month == 2 then
    if year % 4 == 0 && (year % 100 != 0 || year % 400 == 0) then 29 else 28
  else if [4, 6, 9, 11].contains month then 30
  else 31

/-- A date. -/
def date : Scanner Unit := do
  let year ← digits 4
  let _ ← char '-'
  let month ← digits 2
  let _ ← char '-'
  let day ← digits 2
  guard (1 ≤ month && month ≤ 12 && 1 ≤ day && day ≤ daysOf year month)

/-- A time of day. -/
def timeOfDay : Scanner Unit := do
  let hour ← digits 2
  let _ ← char ':'
  let minute ← digits 2
  let _ ← char ':'
  let second ← digits 2
  guard (hour ≤ 23 && minute ≤ 59 && second ≤ 60)
  let _ ← option (char '.' *> takeSome Char.isDigit)

/-- The offset of a time. -/
def timeOffset : Scanner Unit :=
  (do let _ ← char 'Z' <|> char 'z') <|> do
    let _ ← char '+' <|> char '-'
    let hour ← digits 2
    let _ ← char ':'
    let minute ← digits 2
    guard (hour ≤ 23 && minute ≤ 59)

/-- A date, a time, or both with or without an offset. -/
def datetime : Scanner String := do
  let cs ← taken <| (do
    date
    let _ ← option do
      let _ ← satisfy fun c => c == 'T' || c == 't' || c == ' '
      timeOfDay
      option timeOffset) <|> timeOfDay
  return String.ofList cs

/-- A literal. -/
def literal : Scanner Value :=
  (.string <$> anyString)
  <|> (.datetime <$> datetime)
  <|> (.float <$> (finiteFloat <|> specialFloat))
  <|> (.integer <$> integer)
  <|> (string "true" *> pure (.boolean true))
  <|> (string "false" *> pure (.boolean false))

end FsidRegistry.Toml

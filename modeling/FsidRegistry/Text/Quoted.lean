import FsidRegistry.Text.GraphemeExtend
import FsidRegistry.Text.Unprintable

/-!
Quoted text: a text between double quotes in which every character is either itself, printable
and standing on its own, or an escape. Messages show foreign text (unknown verbs, table names,
environment values) in this form, so that it can neither hide nor break a line.
-/

namespace FsidRegistry.Text

/-- The escape of a character by its code point: `\u{7f}`. -/
def codePointEscape (c : Char) : List Char :=
  ['\\', 'u', '\x7b'] ++ Nat.toDigits 16 c.toNat ++ ['\x7d']

/-- The characters that stand for `c` between double quotes. -/
def escapeChar (c : Char) : List Char :=
  if c == '\x00' then ['\\', '0']
  else if c == '\t' then ['\\', 't']
  else if c == '\r' then ['\\', 'r']
  else if c == '\n' then ['\\', 'n']
  else if c == '"' then ['\\', '"']
  else if c == '\\' then ['\\', '\\']
  else if 0x20 ≤ c.toNat && c.toNat < 0x7f then [c]
  else if isGraphemeExtend c || isUnprintable c then codePointEscape c
  else [c]

/-- The quoted form of a text. -/
def quoted (s : String) : String :=
  String.ofList ('"' :: s.toList.flatMap escapeChar ++ ['"'])

end FsidRegistry.Text

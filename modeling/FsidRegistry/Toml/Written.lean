/-!
Writing TOML strings. Of the notations without escapes the first that can hold the text is taken:
quotation marks, apostrophes, and the same two over several lines. Only a text that none of them can hold
is written with escapes.
-/

namespace FsidRegistry.Toml

/-- The longest run of `c` in a text. -/
def longestRun (c : Char) (cs : List Char) : Nat :=
  (cs.foldl (fun (longest, current) x =>
    let current := if x == c then current + 1 else 0
    (max longest current, current)) (0, 0)).1

/-- Whether a character can only be written by an escape, in any notation. -/
def needsEscape (c : Char) : Bool := (c < ' ' && c != '\t' && c != '\n') || c == '\x7F'

/-- An escape by code point. -/
def codePointEscape (c : Char) : List Char :=
  let hex := (Nat.toDigits 16 c.toNat).map Char.toUpper
  ['\\', 'u'] ++ List.replicate (4 - hex.length) '0' ++ hex

/-- The characters of a text between quotation marks. Up to `quotes` of them may stand in a row without an
escape, and line breaks stand for themselves if `lines` is set. -/
def escapeFrom (quotes : Nat) (lines : Bool) : Nat → List Char → List Char
  | _, [] => []
  | run, c :: rest =>
    if c == '"' then
      if run < quotes then '"' :: escapeFrom quotes lines (run + 1) rest
      else '\\' :: '"' :: escapeFrom quotes lines 0 rest
    else
      let written := match c with
        | '\x08' => ['\\', 'b']
        | '\t' => ['\\', 't']
        | '\n' => if lines then ['\n'] else ['\\', 'n']
        | '\x0C' => ['\\', 'f']
        | '\r' => ['\\', 'r']
        | '\\' => ['\\', '\\']
        | c => if needsEscape c then codePointEscape c else [c]
      written ++ escapeFrom quotes lines 0 rest

/-- The forms of a string. -/
inductive StringForm
  | basic | literal | basicLines | literalLines
deriving DecidableEq, Repr

/-- The form that a text is written in. -/
def formOf (cs : List Char) : StringForm :=
  let controls := cs.any needsEscape
  let backslash := cs.contains '\\'
  let newline := cs.contains '\n'
  let quotes := longestRun '"' cs
  let apostrophes := longestRun '\'' cs
  if !controls && !backslash && quotes == 0 && !newline then .basic
  else if !controls && apostrophes == 0 && !newline then .literal
  else if !controls && !backslash && quotes ≤ 2 then .basicLines
  else if !controls && apostrophes ≤ 2 then .literalLines
  else if newline then .basicLines
  else .basic

/-- The text of a string. A line break after the first quotes keeps one at the start of the string. -/
def writeString (s : String) : String :=
  let cs := s.toList
  let start := if cs.contains '\n' then ['\n'] else []
  let quotes := ['"', '"', '"']
  let apostrophes := ['\'', '\'', '\'']
  String.ofList <| match formOf cs with
    | .basic => '"' :: escapeFrom 0 false 0 cs ++ ['"']
    | .literal => '\'' :: cs ++ ['\'']
    | .basicLines => quotes ++ start ++ escapeFrom 2 true 0 cs ++ quotes
    | .literalLines => apostrophes ++ start ++ cs ++ apostrophes

end FsidRegistry.Toml

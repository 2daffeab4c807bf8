/-!
Scanners: readers of a text from its front. A scanner takes some characters off the front and returns what
they stand for, or fails and takes none. `many` repeats a scanner as long as it takes at least one
character, and so always ends.
-/

namespace FsidRegistry.Toml

/-- A reader of a text from its front. -/
abbrev Scanner (α : Type) : Type := StateT (List Char) Option α

namespace Scanner

variable {α β : Type}

/-- Takes a character that satisfies `p`. -/
def satisfy (p : Char → Bool) : Scanner Char
  | c :: rest => if p c then some (c, rest) else none
  | [] => none

/-- Takes the character `c`. -/
def char (c : Char) : Scanner Char := satisfy (· == c)

/-- Takes the characters of `s`. -/
def string (s : String) : Scanner Unit := fun cs =>
  let start := s.toList
  if start.isPrefixOf cs then some ((), cs.drop start.length) else none

/-- Takes all characters up to the first that does not satisfy `p`. -/
def takeWhile (p : Char → Bool) : Scanner (List Char) := fun cs =>
  some (cs.takeWhile p, cs.dropWhile p)

/-- Takes at least one character, and all up to the first that does not satisfy `p`. -/
def takeSome (p : Char → Bool) : Scanner (List Char) := do
  let c ← satisfy p
  return c :: (← takeWhile p)

/-- Succeeds at the end of the text. -/
def atEnd : Scanner Unit
  | [] => some ((), [])
  | _ => none

/-- Tries a scanner; a failure takes nothing. -/
def option (p : Scanner α) : Scanner (Option α) := fun cs =>
  match p cs with
  | some (a, rest) => some (some a, rest)
  | none => some (none, cs)

/-- Repeats a scanner until it fails or takes nothing. -/
def repeated (p : Scanner α) (cs : List Char) : List α × List Char :=
  match p cs with
  | some (a, rest) =>
    if rest.length < cs.length then
      let (as, rest) := repeated p rest
      (a :: as, rest)
    else ([], cs)
  | none => ([], cs)
termination_by cs.length

/-- Repeats a scanner until it fails or takes nothing. -/
def many (p : Scanner α) : Scanner (List α) := fun cs => some (repeated p cs)

/-- The items of a list with a separator between them; there may be none. -/
def separated (item : Scanner α) (separator : Scanner β) : Scanner (List α) := do
  match ← option item with
  | none => return []
  | some first => return first :: (← many (separator *> item))

/-- The characters that a scanner takes. -/
def taken (p : Scanner α) : Scanner (List Char) := fun cs =>
  (p cs).map fun (_, rest) => (cs.take (cs.length - rest.length), rest)

/-- Takes exactly `n` digits; returns their value. -/
def digits (n : Nat) : Scanner Nat := fun cs =>
  let front := cs.take n
  if front.length == n && front.all Char.isDigit then
    some (front.foldl (fun k c => 10 * k + (c.toNat - '0'.toNat)) 0, cs.drop n)
  else none

end Scanner

end FsidRegistry.Toml

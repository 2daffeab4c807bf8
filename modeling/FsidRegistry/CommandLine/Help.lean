import FsidRegistry.CommandLine.Syntax

/-!
Help texts. The short one has a line for each operand and option, with what it says of them in one column;
the long one gives what it says a line of its own.
-/

namespace FsidRegistry.CommandLine

/-- `n` blanks. -/
def blanks (n : Nat) : String := String.ofList (List.replicate n ' ')

namespace OptionSyntax

/-- The names of an option and of its value, as help texts show them. -/
def shown (o : OptionSyntax) : String :=
  let letter := match o.letter with
    | some c => String.ofList ['-', c, ',', ' ']
    | none => blanks 4
  let value := match o.role with
    | .given (some v) => " <" ++ v.name ++ ">"
    | _ => ""
  letter ++ "--" ++ o.name ++ value

end OptionSyntax

/-- The name of an operand, as help texts show it. -/
def Operand.shown (o : Operand) : String :=
  if o.required then "<" ++ o.name ++ ">" else "[" ++ o.name ++ "]"

namespace ProgramSyntax

/-- What a help text says of an option. -/
def aboutOption (p : ProgramSyntax) (long : Bool) (o : OptionSyntax) : String :=
  match o.role with
  | .given _ => o.about
  | .version => "Print version"
  | .help =>
    if p.longAbout.isNone then "Print help"
    else if long then "Print help (see a summary with '-h')"
    else "Print help (see more with '--help')"

/-- Items with what is said of them, in two columns. -/
def columns (items : List (String × String)) : String :=
  let width := (items.map (·.1.length)).foldl max 0 + 2
  String.join (items.map fun (shown, about) =>
    "  " ++ shown ++ blanks (width - shown.length) ++ about ++ "\n")

/-- Items with what is said of them, on two lines each, with an empty line between items. -/
def paragraphs (items : List (String × String)) : String :=
  "\n".intercalate (items.map fun (shown, about) => "  " ++ shown ++ "\n" ++ blanks 10 ++ about ++ "\n")

/-- The help text. The long one differs only where there is more to say. -/
def helpText (p : ProgramSyntax) (long : Bool) : String :=
  let long := long && p.longAbout.isSome
  let list := if long then paragraphs else columns
  let about := if long then p.longAbout.getD p.about else p.about
  let operands := String.join (p.operands.map fun o => " " ++ o.shown)
  let usage := "Usage: " ++ p.name ++ " [OPTIONS]" ++ operands ++ "\n\n"
  let arguments := if p.operands.isEmpty then ""
    else "Arguments:\n" ++ list (p.operands.map fun o => (o.shown, o.about)) ++ "\n"
  let options := "Options:\n" ++ list (p.allOptions.map fun o => (o.shown, p.aboutOption long o))
  about ++ "\n\n" ++ usage ++ arguments ++ options

/-- The version text. -/
def versionText (p : ProgramSyntax) : String := p.name ++ " " ++ p.version ++ "\n"

end ProgramSyntax

end FsidRegistry.CommandLine

/-!
Descriptions of command lines: the options of a program, with or without a value, and its operands.
-/

namespace FsidRegistry.CommandLine

/-- What kind of value an option takes. -/
inductive ValueKind
  /-- A path, which is not empty. -/
  | path
  /-- Any text. -/
  | text
deriving DecidableEq, Repr, Inhabited

/-- A kind of value and the name that the help text has for it. -/
structure ValueName where
  kind : ValueKind
  name : String

/-- What an option is for. -/
inductive Role
  /-- It is given, with a value if it takes one. -/
  | given (value : Option ValueName)
  /-- It asks for the help text. -/
  | help
  /-- It asks for the version. -/
  | version

/-- An option. -/
structure OptionSyntax where
  /-- Its long name. -/
  name : String
  /-- Its short name. -/
  letter : Option Char := none
  role : Role
  /-- What the help text says of it. -/
  about : String := ""

/-- The kind of the option's value, if it takes one. -/
def OptionSyntax.valueKind? (o : OptionSyntax) : Option ValueKind :=
  match o.role with
  | .given (some v) => some v.kind
  | _ => none

/-- An operand. -/
structure Operand where
  name : String
  required : Bool
  about : String

/-- The command line of a program. -/
structure ProgramSyntax where
  name : String
  version : String
  /-- One line on the program. -/
  about : String
  /-- More on the program, where there is more to say. -/
  longAbout : Option String := none
  options : List OptionSyntax
  operands : List Operand := []

namespace ProgramSyntax

/-- All options: those of the program, and those that every program has. -/
def allOptions (p : ProgramSyntax) : List OptionSyntax :=
  p.options ++
    [{ name := "help", letter := 'h', role := .help }, { name := "version", letter := 'V', role := .version }]

/-- The option with a long name. -/
def named? (p : ProgramSyntax) (name : String) : Option OptionSyntax :=
  p.allOptions.find? (·.name == name)

/-- The option with a short name. -/
def lettered? (p : ProgramSyntax) (c : Char) : Option OptionSyntax :=
  p.allOptions.find? (·.letter == some c)

end ProgramSyntax

end FsidRegistry.CommandLine

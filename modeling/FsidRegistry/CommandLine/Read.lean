import FsidRegistry.CommandLine.Help

/-!
Reading command lines. Options may come in any order and between operands, long ones with their value after
`=` or in the next argument, short ones together. A value that is still to come is looked at only when the
next known option, operand or the end shows that no more comes, so an unknown option is reported first.
`--` ends the options.
-/

namespace FsidRegistry.CommandLine

/-- Why a command line is not run. -/
inductive Usage
  | help (text : String)
  | version (text : String)
  /-- An option lacks its value, or has one that it cannot have. -/
  | invalidValue
  | unknownArgument
  /-- An option is given twice. -/
  | argumentConflict
  /-- An option without a value is given one. -/
  | tooManyValues
  /-- A required operand is missing. -/
  | missingArgument
deriving DecidableEq, Repr

/-- The exit status after a command line that is not run. -/
def Usage.exitStatus : Usage → Nat
  | .help _ | .version _ => 0
  | _ => 2

/-- What a command line gives. -/
structure Arguments where
  /-- The options given, with their values, oldest first. -/
  options : List (String × Option String) := []
  operands : List String := []
deriving DecidableEq, Inhabited

namespace Arguments

/-- Whether an option is given. -/
def has (a : Arguments) (name : String) : Bool := a.options.any (·.1 == name)

/-- The value of an option. -/
def value? (a : Arguments) (name : String) : Option String :=
  (a.options.find? (·.1 == name)).bind (·.2)

end Arguments

/-- A command line that is being read. -/
structure Reading where
  arguments : Arguments := {}
  /-- An option whose value is to be looked at: none has come yet, or one has. -/
  pending : Option (OptionSyntax × Option String) := none
  /-- Whether the options have ended. -/
  ended : Bool := false

namespace Reading

/-- Whether an option may have a value. -/
def accepts (o : OptionSyntax) (value : String) : Bool :=
  match o.valueKind? with
  | some .path => !value.isEmpty
  | _ => true

/-- Notes an option that is given. -/
def note (r : Reading) (o : OptionSyntax) (value : Option String) : Except Usage Reading :=
  if r.arguments.has o.name then .error .argumentConflict
  else if !(value.all (accepts o)) then .error .invalidValue
  else .ok { r with arguments :=
    { r.arguments with options := r.arguments.options ++ [(o.name, value)] } }

/-- Looks at the pending value. -/
def resolve (r : Reading) : Except Usage Reading :=
  match r.pending with
  | none => .ok r
  | some (_, none) => .error .invalidValue
  | some (o, some value) => { r with pending := none }.note o (some value)

/-- Takes a known option, whose value may be attached to it. -/
def takeOption (p : ProgramSyntax) (r : Reading) (o : OptionSyntax) (long : Bool)
    (attached : Option String) : Except Usage Reading :=
  match o.role with
  | .given (some _) => do
    let r ← r.resolve
    match attached with
    | some value => r.note o (some value)
    | none => return { r with pending := some (o, none) }
  | role =>
    if attached.isSome then .error .tooManyValues
    else do
      let r ← r.resolve
      match role with
      | .help => .error (.help (p.helpText long))
      | .version => .error (.version p.versionText)
      | .given _ => r.note o none

/-- Takes an argument that begins with two dashes. -/
def takeLong (p : ProgramSyntax) (r : Reading) (body : List Char) : Except Usage Reading :=
  let name := String.ofList (body.takeWhile (· != '='))
  let attached := if body.contains '=' then
    some (String.ofList ((body.dropWhile (· != '=')).drop 1)) else none
  match p.named? name with
  | some o => r.takeOption p o true attached
  | none => .error .unknownArgument

/-- Takes the letters of an argument that begins with one dash. The letter of an option with a value ends
them: what follows, after an equals sign if there is one, is the value. -/
def takeLetters (p : ProgramSyntax) (r : Reading) : List Char → Except Usage Reading
  | [] => .ok r
  | c :: rest =>
    match p.lettered? c with
    | none => .error .unknownArgument
    | some o =>
      if o.valueKind?.isSome then
        let attached := match rest with
          | [] => none
          | '=' :: value => some (String.ofList value)
          | value => some (String.ofList value)
        r.takeOption p o false attached
      else do
        takeLetters p (← r.takeOption p o false none) rest

/-- Takes an operand. -/
def takeOperand (p : ProgramSyntax) (r : Reading) (value : String) : Except Usage Reading :=
  if r.arguments.operands.length < p.operands.length then do
    let r ← r.resolve
    return { r with arguments := { r.arguments with operands := r.arguments.operands ++ [value] } }
  else .error .unknownArgument

/-- Takes an argument that is no option. -/
def takeValue (p : ProgramSyntax) (r : Reading) (value : String) : Except Usage Reading :=
  match r.pending with
  | some (o, none) => .ok { r with pending := some (o, some value) }
  | _ => r.takeOperand p value

/-- Takes an argument. -/
def take (p : ProgramSyntax) (r : Reading) (argument : String) : Except Usage Reading :=
  if r.ended then r.takeOperand p argument
  else match argument.toList with
    | ['-', '-'] => .ok { r with ended := true }
    | '-' :: '-' :: body => r.takeLong p body
    | '-' :: c :: rest => r.takeLetters p (c :: rest)
    | _ => r.takeValue p argument

end Reading

/-- Reads a command line. -/
def ProgramSyntax.read (p : ProgramSyntax) (arguments : List String) : Except Usage Arguments := do
  let r ← arguments.foldlM (Reading.take p) {}
  let r ← r.resolve
  if r.arguments.operands.length < (p.operands.filter (·.required)).length then
    .error .missingArgument
  else return r.arguments

end FsidRegistry.CommandLine

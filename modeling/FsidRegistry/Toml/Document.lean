import FsidRegistry.Toml.Error
import FsidRegistry.Toml.Literal

/-!
Documents. A document is a list of statements: keys with values, and headers that say which table the keys
after them go to. Tables may be mentioned before they are defined, but none is defined twice, neither by a
header nor by a dotted key.
-/

namespace FsidRegistry.Toml

open Scanner

/-! ## Statements -/

/-- Whether a character may stand in a key without quotes. -/
def isBareKeyChar (c : Char) : Bool := c.isAlphanum || c == '-' || c == '_'

/-- One name of a key. -/
def keyName : Scanner String := lineString <|> String.ofList <$> takeSome isBareKeyChar

/-- The most that keys may be dotted and values nested. -/
def depthLimit : Nat := 80

/-- The names of a dotted key. -/
def key : Scanner (List String) := do
  let names ← separated (blanks *> keyName <* blanks) (char '.')
  guard (!names.isEmpty && names.length < depthLimit)
  return names

/-- A table as it is built up. `implicit` tables are only mentioned so far, and `dotted` ones only by dotted
keys. -/
structure Mark where
  implicit : Bool
  dotted : Bool

/-- What a key of a table holds while the table is built up. -/
inductive Item
  | value (value : Value)
  | table (mark : Mark) (items : List (String × Item))
  /-- Tables under one key, of which the last may still be built up. -/
  | tables (tables : List (List (String × Item)))

/-- The keys of a table that is built up. -/
abbrev Items : Type := List (String × Item)

namespace Items

/-- What a key holds. -/
def get? (items : Items) (k : String) : Option Item := (items.find? (·.1 == k)).map (·.2)

/-- Puts an item under a key: in place of the old one, or at the end. -/
def put (items : Items) (k : String) (item : Item) : Items :=
  if items.any (·.1 == k) then items.map fun e => if e.1 == k then (k, item) else e
  else items ++ [(k, item)]

/-- Changes the table at a path. Tables missing on the way are created; `dotted` paths pass only through
tables that no header has defined. -/
def modify (dotted : Bool) (f : Mark → Items → Option Items) (mark : Mark) (items : Items) :
    List String → Option Items
  | [] => f mark items
  | k :: path =>
    match items.get? k with
    | none => do
      let inner ← modify dotted f ⟨true, dotted⟩ [] path
      return items.put k (.table ⟨true, dotted⟩ inner)
    | some (.value _) => none
    | some (.tables ts) =>
      match ts.getLast? with
      | none => none
      | some last => do
        let inner ← modify dotted f ⟨false, false⟩ last path
        return items.put k (.tables (ts.dropLast ++ [inner]))
    | some (.table m inner) =>
      if dotted && !m.implicit then none
      else do
        let inner ← modify dotted f m inner path
        return items.put k (.table m inner)

/-- The table at a path. -/
def tableAt? (items : Items) : List String → Option Items
  | [] => some items
  | k :: path =>
    match items.get? k with
    | some (.table _ inner) => tableAt? inner path
    | some (.tables ts) => (ts.getLast?).bind (tableAt? · path)
    | _ => none

/-- Defines a key with a value. -/
def define (items : Items) (path : List String) (v : Value) : Option Items := do
  let name ← path.getLast?
  let outer := path.dropLast
  modify true (fun mark inner =>
    if mark.dotted == outer.isEmpty || (inner.get? name).isSome then none
    else some (inner ++ [(name, .value v)])) ⟨false, false⟩ items outer

end Items

mutual

/-- The value that an item stands for. -/
def Item.toValue : Item → Value
  | .value v => v
  | .table _ items => .table (entriesOf items)
  | .tables ts => .array (tablesOf ts)

/-- The entries that items stand for. -/
def entriesOf : List (String × Item) → Entries
  | [] => []
  | (k, item) :: rest => (k, item.toValue) :: entriesOf rest

/-- The values that tables under one key stand for. -/
def tablesOf : List (List (String × Item)) → List Value
  | [] => []
  | items :: rest => .table (entriesOf items) :: tablesOf rest

end

/-! ## Values -/

/-- Blanks, line breaks and comments inside an array. -/
def arrayBlanks : Scanner Unit := do
  let _ ← many ((do let _ ← takeSome isLineBlank) <|> newline <|> (comment *> newline))

/-- An array of values. -/
def array (value : Scanner Value) : Scanner Value := do
  let _ ← char '['
  let items ← separated (arrayBlanks *> value <* arrayBlanks) (char ',')
  if !items.isEmpty then
    let _ ← option (char ',')
  arrayBlanks
  let _ ← char ']'
  return .array items

/-- A table of one line. -/
def inlineTable (value : Scanner Value) : Scanner Value := do
  let _ ← char '{'
  let pairs ← separated (do
    let path ← key
    let _ ← char '='
    blanks
    let v ← value
    blanks
    return (path, v)) (char ',')
  blanks
  let _ ← char '}'
  match pairs.foldlM (fun (items : Items) (path, v) => items.define path v) [] with
  | some items => return .table (entriesOf items)
  | none => failure

/-- A value that is nested at most `depth` times. -/
def value : Nat → Scanner Value
  | 0 => literal
  | depth + 1 => literal <|> array (value depth) <|> inlineTable (value depth)

/-! ## Documents -/

/-- A statement of a document. -/
inductive Statement
  /-- An empty line or a comment. -/
  | blank
  /-- The keys that follow go to the table at a path. -/
  | header (path : List String)
  /-- The keys that follow go to one more table at a path. -/
  | arrayHeader (path : List String)
  | entry (path : List String) (value : Value)

/-- The end of a line that may have a comment. -/
def lineEnd : Scanner Unit := do
  blanks
  let _ ← option comment
  newline <|> atEnd

/-- A statement. -/
def statement : Scanner Statement := do
  blanks
  (newline *> pure .blank)
    <|> (comment *> (newline <|> atEnd) *> pure .blank)
    <|> (do string "[["; let path ← key; string "]]"; lineEnd; return .arrayHeader path)
    <|> (do string "["; let path ← key; string "]"; lineEnd; return .header path)
    <|> do
      let path ← key
      let _ ← char '='
      blanks
      let v ← value (depthLimit - 1)
      lineEnd
      return .entry path v

/-- A document that is built up, and the table that keys go to. -/
structure Draft where
  root : Items := []
  path : List String := []
  isArray : Bool := false
  current : Items := []

namespace Draft

/-- The document with its current table put in place. -/
def close (d : Draft) : Option Items :=
  match d.path.getLast? with
  | none => some d.current
  | some name =>
    Items.modify false (fun _ outer =>
      if d.isArray then
        match outer.get? name with
        | none => some (outer.put name (.tables [d.current]))
        | some (.tables ts) => some (outer.put name (.tables (ts ++ [d.current])))
        | _ => none
      else some (outer ++ [(name, .table ⟨false, false⟩ d.current)])) ⟨false, false⟩ d.root d.path.dropLast

/-- What the table of a new header holds already: the tables mentioned inside it. -/
def mentioned (root : Items) (path : List String) (name : String) : Option Items :=
  match (Items.tableAt? root path).bind (Items.get? · name) with
  | none => some []
  | some (.table m inner) => if m.implicit && !m.dotted then some inner else none
  | some _ => none

/-- The document after a statement. -/
def step (d : Draft) : Statement → Option Draft
  | .blank => some d
  | .entry path v => do return { d with current := ← d.current.define path v }
  | .header path => do
    let root ← d.close
    let name ← path.getLast?
    let outer := path.dropLast
    let current ← mentioned root outer name
    let root ← Items.modify false (fun _ items => some (items.filter (·.1 != name)))
      ⟨false, false⟩ root outer
    return { root, path, current }
  | .arrayHeader path => do
    let root ← d.close
    let name ← path.getLast?
    let root ← Items.modify false (fun _ items =>
      match items.get? name with
      | none | some (.tables _) => some items
      | _ => none) ⟨false, false⟩ root path.dropLast
    return { root, path, isArray := true }

end Draft

/-- The statements of a text. A byte order mark before them is dropped. -/
def statements : Scanner (List Statement) := do
  let _ ← option (char '\uFEFF')
  let list ← many statement
  blanks
  atEnd
  return list

/-- Reads a document. -/
def read (text : String) : Except Error Entries :=
  let entries := do
    let (list, _) ← statements text.toList
    let draft ← list.foldlM Draft.step {}
    return entriesOf (← draft.close)
  match entries with
  | some entries => .ok entries
  | none => .error .malformed

end FsidRegistry.Toml

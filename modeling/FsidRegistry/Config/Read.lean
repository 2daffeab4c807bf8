import FsidRegistry.Config.Basic
import FsidRegistry.Text.Quoted
import FsidRegistry.Toml.Document

/-!
Configurations in TOML. All keys may be left out; keys that are not known are refused. The database may
also be written as an array of its values in order. Keys are looked at in the order of the document, and
the first that does not fit is reported.
-/

namespace FsidRegistry.Config

open Toml (Value)

/-- Text between backticks. -/
def ticked (s : String) : String := "\x60" ++ s ++ "\x60"

/-- What a value is, in words. -/
def describe : Value → String
  | .string s => "string " ++ Text.quoted s
  | .integer n => "integer " ++ ticked (toString n)
  | .float x => "floating point " ++ ticked x.plainText
  | .boolean b => "boolean " ++ ticked (toString b)
  | .datetime _ | .table _ => "map"
  | .array _ => "sequence"

/-- The error for a value of another type than expected. -/
def invalidType (v : Value) (expected : String) : Toml.Error :=
  .mismatch ("invalid type: " ++ describe v ++ ", expected " ++ expected)

/-- The error for a key that is not known. -/
def unknownField (key : String) (known : List String) : Toml.Error :=
  .mismatch ("unknown field " ++ ticked key ++ ", expected one of " ++
    ", ".intercalate (known.map ticked))

/-- Reads a text, called `expected` in the error. -/
def readText (expected : String) : Value → Except Toml.Error String
  | .string s => .ok s
  | v => .error (invalidType v expected)

/-- Reads a truth value. -/
def readFlag : Value → Except Toml.Error Bool
  | .boolean b => .ok b
  | v => .error (invalidType v "a boolean")

/-- Reads a count of 32 bits. -/
def readCount : Value → Except Toml.Error UInt32
  | .integer n =>
    if 0 ≤ n && n ≤ 4294967295 then .ok (.ofNat n.toNat)
    else .error (.mismatch ("invalid value: integer " ++ ticked (toString n) ++ ", expected u32"))
  | v => .error (invalidType v "u32")

/-- Where a value of the database goes. -/
def databaseFields : List (String × (Value → DatabaseConfig → Except Toml.Error DatabaseConfig)) :=
  [("url", fun v d => do return { d with url := ← readText "a string" v }),
   ("table-name", fun v d => do return { d with tableName := ← readText "a string" v }),
   ("create-table", fun v d => do return { d with createTable := ← readFlag v }),
   ("max-connections", fun v d => do return { d with maxConnections := ← readCount v })]

/-- Reads entries, each by the field that has its key. -/
def readEntries {α : Type} (fields : List (String × (Value → α → Except Toml.Error α)))
    (entries : Toml.Entries) (start : α) : Except Toml.Error α :=
  entries.foldlM (fun x (key, v) =>
    match fields.find? (·.1 == key) with
    | some (_, read) => read v x
    | none => .error (unknownField key (fields.map (·.1)))) start

/-- The key under which a date stands, where it is taken for a table. -/
def datetimeKey : String := "$__toml_private_datetime"

/-- Reads the database. -/
def readDatabase : Value → Except Toml.Error DatabaseConfig
  | .table entries => readEntries databaseFields entries {}
  | .datetime text => readEntries databaseFields [(datetimeKey, .string text)] {}
  | .array items =>
    (items.zip databaseFields).foldlM (fun d (v, _, read) => read v d) {}
  | v => .error (invalidType v "struct DatabaseConfig")

/-- Where a value of the configuration goes. -/
def fields : List (String × (Value → Config → Except Toml.Error Config)) :=
  [("socket", fun v c => do return { c with socket := ← readText "path string" v }),
   ("debug", fun v c => do return { c with debug := ← readFlag v }),
   ("cache", fun v c => do return { c with cache := ← readFlag v }),
   ("memory", fun v c => do return { c with memory := ← readFlag v }),
   ("database", fun v c => do return { c with database := ← readDatabase v })]

/-- Reads a configuration. -/
def read (text : String) : Except Toml.Error Config := do
  readEntries fields (← Toml.read text) {}

end FsidRegistry.Config

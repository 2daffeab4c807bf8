import FsidRegistry.Dictionary
import FsidRegistry.Store.Table

/-!
The store over a database table. The store's three statements and the creation of its table run against a
database of named tables; what the database reports becomes a driver error with the database's own text
and code.
-/

namespace FsidRegistry

/-- A table under the name it was created with. Names are compared without regard to ASCII case. -/
structure NamedTable where
  name : String
  table : FsidTable
deriving DecidableEq, Inhabited

/-- The tables of a database. -/
structure Database where
  tables : List NamedTable
deriving DecidableEq, Inhabited

/-- A database as it was opened. -/
structure OpenDatabase where
  database : Database
  readOnly : Bool := false
  closed : Bool := false
  /-- Whether its file holds something else than a database. -/
  foreign : Bool := false
deriving DecidableEq, Inhabited

/-- An error as the database reports it. -/
def databaseError (code : String) (text : String) (unique : Bool) : StoreError :=
  .driver (.database ⟨"(code: " ++ code ++ ") " ++ text, some code, unique⟩)

namespace Database

/-- The database without tables. -/
def empty : Database := ⟨[]⟩

/-- Whether two table names mean the same table. -/
def sameName (a b : String) : Bool := a.toLower == b.toLower

/-- The table of a name. -/
def table? (d : Database) (name : String) : Option NamedTable :=
  d.tables.find? fun t => sameName t.name name

/-- Puts a table in the place of the one with its name. -/
def setTable (d : Database) (t : NamedTable) : Database :=
  ⟨d.tables.map fun u => if sameName u.name t.name then t else u⟩

end Database

namespace OpenDatabase

/-- What any statement may report before it looks for its table. -/
def checkUsable (d : OpenDatabase) : Except StoreError Unit :=
  if d.closed then .error (.driver .poolClosed)
  else if d.foreign then .error (databaseError "26" "file is not a database" false)
  else .ok ()

/-- The table that a statement names. -/
def tableFor (d : OpenDatabase) (name : String) : Except StoreError NamedTable := do
  d.checkUsable
  match d.database.table? name with
    | none => .error (databaseError "1" ("no such table: " ++ name) false)
    | some t => .ok t

/-- The table for a statement that writes. -/
def tableForWriting (d : OpenDatabase) (name : String) : Except StoreError NamedTable := do
  let t ← d.tableFor name
  if d.readOnly then
    .error (databaseError "8" "attempt to write a readonly database" false)
  else .ok t

/-- How the database reports a refused row. -/
def refusalError (name : String) : FsidTable.Refusal → StoreError
  | .fsidTaken => databaseError "1555" ("UNIQUE constraint failed: " ++ name ++ ".fsid") true
  | .pathTaken => databaseError "2067" ("UNIQUE constraint failed: " ++ name ++ ".path") true
  | .full => databaseError "13" "database or disk is full" false

/-- Replaces a table. -/
def withTable (d : OpenDatabase) (t : NamedTable) : OpenDatabase :=
  { d with database := d.database.setTable t }

/-- Creates a table unless it exists. -/
def createTable (d : OpenDatabase) (name : String) : Except StoreError OpenDatabase := do
  d.checkUsable
  if "sqlite_".isPrefixOf name.toLower then
    .error (databaseError "1" ("object name reserved for internal use: " ++ name) false)
  else if (d.database.table? name).isSome then .ok d
  else if d.readOnly then
    .error (databaseError "8" "attempt to write a readonly database" false)
  else .ok { d with database := ⟨d.database.tables ++ [⟨name, .empty⟩]⟩ }

/-- Adds a row with a given fsid; returns how many rows were added. -/
def insertRow (d : OpenDatabase) (name : String) (fsid : Int) (path : String) :
    Except StoreError (Nat × OpenDatabase) := do
  let t ← d.tableForWriting name
  match t.table.insertRow fsid path with
  | .error r => .error (refusalError t.name r)
  | .ok table => .ok (1, d.withTable { t with table })

/-- Removes the rows that have the fsid or the path; returns how many there were. -/
def deleteRows (d : OpenDatabase) (name : String) (fsid : Option Int) (path : Option String) :
    Except StoreError (Nat × OpenDatabase) := do
  let t ← d.tableForWriting name
  let (n, table) := t.table.delete fsid path
  return (n, d.withTable { t with table })

/-- Removes a table. -/
def dropTable (d : OpenDatabase) (name : String) : Except StoreError (Nat × OpenDatabase) := do
  let t ← d.tableForWriting name
  return (0, { d with database := ⟨d.database.tables.filter fun u => u.name != t.name⟩ })

end OpenDatabase

/-- A store over one table of a database. -/
structure SqlStore where
  name : TableName
  database : OpenDatabase
deriving DecidableEq

namespace SqlStore

/-- Reads a 64-bit number of a row as an fsid. -/
def decodeFsid (n : Int) : Except StoreError Fsid :=
  match Fsid.ofInt? n with
  | some fsid => .ok fsid
  | none =>
    let text :=
      if n < 0 then "number too small to fit in target type" else "number too large to fit in target type"
    .error (.driver (.columnDecode 0 text))

/-- The fsid of a path. -/
def fsidOf (s : SqlStore) (path : String) : Except StoreError Fsid := do
  let t ← s.database.tableFor s.name.text
  match t.table.fsidOf? path with
  | some n => decodeFsid n
  | none => .error .notFound

/-- The path of an fsid. -/
def pathOf (s : SqlStore) (fsid : Fsid) : Except StoreError String := do
  let t ← s.database.tableFor s.name.text
  match t.table.pathOf? fsid.val with
  | some path => .ok path
  | none => .error .notFound

/-- Adds a row for a path. The row stays also if its fsid is then found not to fit. -/
def allocate (s : SqlStore) (path : String) : Except StoreError Fsid × SqlStore :=
  match s.database.tableForWriting s.name.text with
  | .error e => (.error e, s)
  | .ok t =>
    match t.table.insertPath path with
    | .error r => (.error (OpenDatabase.refusalError t.name r), s)
    | .ok (n, table) => (decodeFsid n, { s with database := s.database.withTable { t with table } })

/-- The store as a source. -/
def source : Source SqlStore where
  ask
    | .fsidOf path, s => (s.fsidOf path, s)
    | .allocate path, s => s.allocate path
    | .pathOf fsid, s => (s.pathOf fsid, s)

/-- The store over a table of a new database in memory, before the table is created. -/
def inMemory (name : String) : Except StoreError SqlStore :=
  (TableName.ofText name).map fun name => ⟨name, { database := .empty }⟩

/-- Creates the store's table unless it exists. -/
def createTable (s : SqlStore) : Except StoreError SqlStore :=
  (s.database.createTable s.name.text).map fun database => { s with database }

/-- Closes the database; every later statement fails. -/
def close (s : SqlStore) : SqlStore := { s with database := { s.database with closed := true } }

end SqlStore

end FsidRegistry

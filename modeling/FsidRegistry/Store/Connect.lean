import FsidRegistry.Host.Files
import FsidRegistry.Store.DatabaseUrl
import FsidRegistry.Store.Error

/-!
Stores in files: opening the database that a location names, and writing it back. How URLs are read and
databases are opened is a matter of the driver.
-/

namespace FsidRegistry

/-- A driver of databases. -/
structure DatabaseDriver where
  /-- Reads a URL. -/
  read : String → Except StoreError DatabaseUrl
  /-- Opens the database that a URL names, for at most so many connections. -/
  openPool : DatabaseUrl → UInt32 → Files → Except StoreError (OpenDatabase × Option Place) × Files

/-- A store whose database may be kept in a file. -/
structure KeptStore where
  store : SqlStore
  place : Option Place
  /-- How many connections the database may have. -/
  connections : UInt32

namespace KeptStore

/-- Opens the store over a table of the database at a location, with one connection at least. The name of
the table is looked at once the database is open. -/
def connect (driver : DatabaseDriver) (files : Files) (location table : String)
    (connections : UInt32) : Except StoreError KeptStore × Files :=
  match driver.read (DatabaseUrl.ofLocation location) with
  | .error e => (.error e, files)
  | .ok url =>
    let connections := max connections 1
    let (opened, files) := driver.openPool url connections files
    (opened.bind fun (database, place) =>
      (TableName.ofText table).map fun name => ⟨⟨name, database⟩, place, connections⟩, files)

/-- Writes a database back into its file. A file that a read-only database was opened from is not
touched. -/
def save (place : Option Place) (store : SqlStore) (files : Files) : Files :=
  match place with
  | some place =>
    if store.database.readOnly || store.database.database.tables.isEmpty then files
    else files.put place (.database store.database.database)
  | none => files

end KeptStore

end FsidRegistry

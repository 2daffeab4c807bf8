import FsidRegistry.Store.Source
import FsidRegistry.Store.TableName

/-!
Database tables of fsids. A table has rows of a 64-bit fsid and a path, both unique; the database numbers
new rows one above the largest fsid the table ever held, and keeps a statement that fails from
changing anything.
-/

namespace FsidRegistry

/-- The rows of a table and the largest fsid it ever held. -/
structure FsidTable where
  rows : List (Int × String)
  largest : Int
deriving DecidableEq, Inhabited

namespace FsidTable

/-- The new table. -/
def empty : FsidTable := ⟨[], 0⟩

/-- The largest fsid that fits a row. -/
def maxFsid : Int := 9223372036854775807

/-- Why the database refuses a row. -/
inductive Refusal
  /-- The fsid is in the table. -/
  | fsidTaken
  /-- The path is in the table. -/
  | pathTaken
  /-- No fsid is left. -/
  | full
deriving DecidableEq

/-- Whether a row has the path. -/
def hasPath (t : FsidTable) (path : String) : Bool := t.rows.any (·.2 == path)

/-- Whether a row has the fsid. -/
def hasFsid (t : FsidTable) (fsid : Int) : Bool := t.rows.any (·.1 == fsid)

/-- Adds a row with the given fsid. -/
def insertRow (t : FsidTable) (fsid : Int) (path : String) : Except Refusal FsidTable :=
  if t.hasFsid fsid then .error .fsidTaken
  else if t.hasPath path then .error .pathTaken
  else .ok ⟨t.rows ++ [(fsid, path)], max t.largest fsid⟩

/-- Adds a row for a path and returns the fsid the database gave it. -/
def insertPath (t : FsidTable) (path : String) : Except Refusal (Int × FsidTable) :=
  if maxFsid ≤ t.largest then .error .full
  else (t.insertRow (t.largest + 1) path).map (t.largest + 1, ·)

/-- The fsid in the row of a path. -/
def fsidOf? (t : FsidTable) (path : String) : Option Int :=
  (t.rows.find? (·.2 == path)).map (·.1)

/-- The path in the row of an fsid. -/
def pathOf? (t : FsidTable) (fsid : Int) : Option String :=
  (t.rows.find? (·.1 == fsid)).map (·.2)

/-- Removes the rows that have the fsid or the path, and counts them. -/
def delete (t : FsidTable) (fsid : Option Int) (path : Option String) : Nat × FsidTable :=
  let hit (r : Int × String) : Bool := fsid == some r.1 || path == some r.2
  (t.rows.countP hit, { t with rows := t.rows.filter (!hit ·) })

end FsidTable

end FsidRegistry

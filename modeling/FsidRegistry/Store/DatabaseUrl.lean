/-!
URLs of databases. A URL names a database in memory or a file, and says by its parameters how it is opened.
A text without the scheme is a plain path, opened for reading and writing and created if it is missing;
it is put into a URL as it stands, so what is read from the URL need not be the path.
-/

namespace FsidRegistry

/-- What a database URL names. -/
inductive DatabasePlace
  | memory
  | file (name : String)
deriving DecidableEq, Inhabited

/-- What a database URL says. -/
structure DatabaseUrl where
  place : DatabasePlace
  readOnly : Bool := false
  createIfMissing : Bool := false
  /-- Whether the file is taken to change never. -/
  immutable : Bool := false
  /-- The name of the file system layer, if one is asked for. -/
  layer : Option String := none
deriving DecidableEq, Inhabited

namespace DatabaseUrl

/-- The URL of a database's location. -/
def ofLocation (location : String) : String :=
  if "sqlite:".isPrefixOf location then location else "sqlite://" ++ location ++ "?mode=rwc"

end DatabaseUrl

end FsidRegistry

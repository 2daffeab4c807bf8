/-!
Configurations of the daemon.
-/

namespace FsidRegistry

/-- How the database is reached. -/
structure DatabaseConfig where
  url : String := ""
  tableName : String := ""
  /-- Whether the table is created at the start. -/
  createTable : Bool := false
  maxConnections : UInt32 := 5
deriving DecidableEq, Inhabited

/-- A configuration. -/
structure Config where
  /-- The path of the socket. -/
  socket : String := "/run/fsidd.sock"
  debug : Bool := false
  cache : Bool := true
  /-- Whether fsids are kept in memory instead of the database. -/
  memory : Bool := false
  database : DatabaseConfig := {}
deriving DecidableEq, Inhabited

end FsidRegistry

import FsidRegistry.Config.Basic
import FsidRegistry.Daemon.Arguments
import FsidRegistry.Store.TableName
import FsidRegistry.Text.Quoted

/-!
Layers of a configuration. The environment overrides what the file says, and the command line overrides
both; what is not given leaves the layer below. `problems` lists what keeps the outcome from being used.
-/

namespace FsidRegistry.Config

/-- An environment. -/
abbrev Environment : Type := String → Option String

/-- The variable of a name, unless it is empty. -/
def lookup? (env : Environment) (name : String) : Option String :=
  (env name).filter fun value => !value.isEmpty

/-- Reads a truth value of the environment. -/
def readWord? (value : String) : Option Bool :=
  let word := value.toLower
  if ["1", "t", "true", "y", "yes", "on"].contains word then some true
  else if ["0", "f", "false", "n", "no", "off"].contains word then some false
  else none

/-- The truth value of a variable, if it is set to one. -/
def flag? (env : Environment) (name : String) : Option Bool := (lookup? env name).bind readWord?

/-- The complaint about a variable that should be a truth value. -/
def flagProblem? (env : Environment) (name : String) : Option String :=
  match lookup? env name with
  | none => none
  | some value =>
    if (readWord? value).isSome then none
    else some ("invalid argument " ++ Text.quoted value ++ " for " ++ Text.quoted name)

/-- The variables that are truth values, in the order of complaints. -/
def flagVariables : List String := ["FSID_CREATE_TABLE", "FSID_DEBUG", "FSID_CACHE"]

/-- The configuration overridden by the environment, and the complaints. Variables without fault count
even if others have one. -/
def withEnvironment (c : Config) (env : Environment) : Config × List String :=
  ({ c with
      socket := (lookup? env "FSID_SOCKET").getD c.socket
      debug := (flag? env "FSID_DEBUG").getD c.debug
      cache := (flag? env "FSID_CACHE").getD c.cache
      database :=
        { c.database with
          url := (lookup? env "FSID_DATABASE_URL").getD c.database.url
          tableName := (lookup? env "FSID_TABLE_NAME").getD c.database.tableName
          createTable := (flag? env "FSID_CREATE_TABLE").getD c.database.createTable } },
    flagVariables.filterMap (flagProblem? env))

/-- The configuration overridden by the command line. -/
def withArguments (c : Config) (a : DaemonArguments) : Config :=
  { c with
    socket := a.socket.getD c.socket
    debug := a.debug || c.debug
    cache := !a.noCache && c.cache
    memory := a.memory || c.memory
    database :=
      { c.database with
        url := a.databaseUrl.getD c.database.url
        tableName := a.tableName.getD c.database.tableName
        createTable := a.createTable || c.database.createTable } }

/-- The complaint about a setting that is missing. -/
def required (name : String) : String := "required: " ++ Text.quoted name

/-- What keeps the database settings from being used. -/
def databaseProblems (d : DatabaseConfig) : List String :=
  (if d.url.isEmpty then [required "database.url"] else []) ++
  (if d.tableName.isEmpty then [required "database.table-name"]
    else if isTableName d.tableName then []
    else ["invalid table name " ++ Text.quoted d.tableName]) ++
  (if d.maxConnections = 0 then ["database.max-connections must be at least 1"] else [])

/-- What keeps a configuration from being used. -/
def problems (c : Config) : List String :=
  (if c.socket.isEmpty then [required "socket"] else []) ++
  (if c.memory then [] else databaseProblems c.database)

end FsidRegistry.Config

import FsidRegistry.CommandLine.Read

/-!
The command line of the daemon.
-/

namespace FsidRegistry

/-- One line on the two programs. -/
def aboutPrograms : String :=
  "\x60fsidd\x60 allocates and resolves stable filesystem ids for NFS re-exported paths."

/-- The version of the two programs. -/
def programVersion : String := "0.1.0"

/-- What the command line of the daemon gives. -/
structure DaemonArguments where
  config : Option String := none
  socket : Option String := none
  databaseUrl : Option String := none
  tableName : Option String := none
  createTable : Bool := false
  memory : Bool := false
  noCache : Bool := false
  debug : Bool := false
deriving DecidableEq, Inhabited

namespace DaemonArguments

open CommandLine

/-- The form of the command line. -/
def form : ProgramSyntax where
  name := "fsidd"
  version := programVersion
  about := aboutPrograms
  longAbout := "fsidd - Allocates and resolves stable fsids for NFS re-exported paths\n\n" ++
    "Flags override environment variables, which override the config file."
  options :=
    [{ name := "config", letter := 'c', role := .given (some ⟨.path, "PATH"⟩),
       about := "Path to the config file [default: /etc/knfsd-fsidd.toml]" },
     { name := "socket", role := .given (some ⟨.path, "PATH"⟩),
       about := "Path of the socket to listen on" },
     { name := "database-url", role := .given (some ⟨.text, "URL"⟩),
       about := "Database URL or SQLite file path" },
     { name := "table-name", role := .given (some ⟨.text, "NAME"⟩),
       about := "Name of the fsid table" },
     { name := "create-table", role := .given none,
       about := "Create the fsid table on startup if it does not exist" },
     { name := "memory", role := .given none,
       about := "Keep fsids in process memory instead of a database" },
     { name := "no-cache", role := .given none, about := "Send every lookup to the store" },
     { name := "debug", letter := 'd', role := .given none, about := "Enable debug logging" }]

/-- Reads the command line. -/
def read (arguments : List String) : Except Usage DaemonArguments :=
  (form.read arguments).map fun a =>
    { config := a.value? "config"
      socket := a.value? "socket"
      databaseUrl := a.value? "database-url"
      tableName := a.value? "table-name"
      createTable := a.has "create-table"
      memory := a.has "memory"
      noCache := a.has "no-cache"
      debug := a.has "debug" }

end DaemonArguments

end FsidRegistry

import FsidRegistry.Config.Basic
import FsidRegistry.Toml.Written

/-!
Writing configurations in TOML, with all keys in their order.
-/

namespace FsidRegistry.Config

/-- A line that gives a key its value. -/
def line (key value : String) : String := key ++ " = " ++ value ++ "\n"

/-- The text of a configuration. -/
def write (c : Config) : String :=
  line "socket" (Toml.writeString c.socket) ++ line "debug" (toString c.debug) ++
  line "cache" (toString c.cache) ++ line "memory" (toString c.memory) ++
  "\n[database]\n" ++
  line "url" (Toml.writeString c.database.url) ++
  line "table-name" (Toml.writeString c.database.tableName) ++
  line "create-table" (toString c.database.createTable) ++
  line "max-connections" (toString c.database.maxConnections.toNat)

end FsidRegistry.Config

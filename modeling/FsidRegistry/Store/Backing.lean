import FsidRegistry.Store.Memory
import FsidRegistry.Store.Sql

/-!
The two kinds of store behind one source.
-/

namespace FsidRegistry

/-- A store. -/
inductive Backing
  | memory (store : MemoryStore)
  | sql (store : SqlStore)
deriving DecidableEq

namespace Backing

/-- The store as a source. -/
def source : Source Backing where
  ask q
    | .memory s => let (a, s) := MemoryStore.source.ask q s; (a, .memory s)
    | .sql s => let (a, s) := SqlStore.source.ask q s; (a, .sql s)

end Backing

end FsidRegistry

import FsidRegistry.Dictionary
import FsidRegistry.Fsid

/-!
The cache of resolved pairs. A pair of a path and its fsid never changes, so pairs are kept for good, in
both directions; each direction is its own map.
-/

namespace FsidRegistry

/-- Resolved pairs, by path and by fsid. -/
structure Cache where
  /-- Whether anything is kept and looked up. -/
  enabled : Bool
  fsids : Dictionary String Fsid
  paths : Dictionary Fsid String

namespace Cache

/-- The cache without pairs. -/
def empty (enabled : Bool) : Cache := ⟨enabled, ∅, ∅⟩

instance : Inhabited Cache := ⟨empty true⟩

/-- How many pairs are kept. -/
def size (c : Cache) : Nat := c.fsids.size

/-- The fsid kept for a path. -/
def fsidOf? (c : Cache) (path : String) : Option Fsid :=
  if c.enabled then c.fsids.get? path else none

/-- The path kept for an fsid. -/
def pathOf? (c : Cache) (fsid : Fsid) : Option String :=
  if c.enabled then c.paths.get? fsid else none

/-- Keeps the fsid of a path: the first half of keeping a pair. -/
def keepFsid (c : Cache) (fsid : Fsid) (path : String) : Cache :=
  if c.enabled then { c with fsids := c.fsids.insert path fsid } else c

/-- Keeps the path of an fsid: the second half of keeping a pair. -/
def keepPath (c : Cache) (fsid : Fsid) (path : String) : Cache :=
  if c.enabled then { c with paths := c.paths.insert fsid path } else c

/-- Keeps a pair. -/
def keep (c : Cache) (fsid : Fsid) (path : String) : Cache :=
  (c.keepFsid fsid path).keepPath fsid path

end Cache

end FsidRegistry

import FsidRegistry.Dictionary
import FsidRegistry.Store.Source

/-!
A store in memory. Fsids are issued from 1 upward, each path gets one once, and a second allocation of a
path is a conflict, as it is for a table with a uniqueness constraint.
-/

namespace FsidRegistry

/-- A store in memory: both directions of the mapping, the next fsid, and how many were issued. -/
structure MemoryStore where
  fsids : Dictionary String Fsid
  paths : Dictionary Fsid String
  next : Fsid
  allocations : Nat
deriving DecidableEq

namespace MemoryStore

/-- The store that has issued nothing. -/
def empty : MemoryStore := ⟨∅, ∅, .first, 0⟩

instance : Inhabited MemoryStore := ⟨empty⟩

/-- How many paths have an fsid. -/
def size (s : MemoryStore) : Nat := s.fsids.size

/-- The fsid of a path. -/
def fsidOf (s : MemoryStore) (path : String) : Except StoreError Fsid :=
  match s.fsids.get? path with
  | some fsid => .ok fsid
  | none => .error .notFound

/-- The path of an fsid. -/
def pathOf (s : MemoryStore) (fsid : Fsid) : Except StoreError String :=
  match s.paths.get? fsid with
  | some path => .ok path
  | none => .error .notFound

/-- Gives a path the next fsid. The largest fsid is never issued. -/
def allocate (s : MemoryStore) (path : String) : Except StoreError Fsid × MemoryStore :=
  if s.fsids.contains path then (.error (.conflict path), s)
  else
    match s.next.next? with
    | none => (.error (.other "fsid space exhausted"), s)
    | some next =>
      (.ok s.next,
        { fsids := s.fsids.insert path s.next
          paths := s.paths.insert s.next path
          next := next
          allocations := s.allocations + 1 })

/-- The store as a source. -/
def source : Source MemoryStore where
  ask
    | .fsidOf path, s => (s.fsidOf path, s)
    | .allocate path, s => s.allocate path
    | .pathOf fsid, s => (s.pathOf fsid, s)

end MemoryStore

end FsidRegistry

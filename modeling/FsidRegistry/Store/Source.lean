import FsidRegistry.Fsid
import FsidRegistry.Store.Error

/-!
Sources of fsids: what can be asked of a store and what it answers. An answer always belongs to a pair
of a path and its fsid, of which the question names one half.
-/

namespace FsidRegistry

/-- A question to a store. -/
inductive Query
  /-- The fsid of a path. -/
  | fsidOf (path : String)
  /-- A new fsid for a path that has none. -/
  | allocate (path : String)
  /-- The path of an fsid. -/
  | pathOf (fsid : Fsid)
deriving DecidableEq

namespace Query

/-- What a question is answered with. -/
abbrev Value : Query → Type
  | .fsidOf _ | .allocate _ => Fsid
  | .pathOf _ => String

/-- The pair of fsid and path that an answer stands for. -/
def pair : (q : Query) → q.Value → Fsid × String
  | .fsidOf path, fsid => (fsid, path)
  | .allocate path, fsid => (fsid, path)
  | .pathOf fsid, path => (fsid, path)

/-- The question as one line. -/
def text : Query → String
  | .fsidOf path => "get_fsid " ++ path
  | .allocate path => "allocate_fsid " ++ path
  | .pathOf fsid => "get_path " ++ fsid.text

end Query

/-- The answer to a question. -/
abbrev Answer (q : Query) : Type := Except StoreError q.Value

/-- Something that answers questions and may change by it. -/
structure Source (σ : Type) where
  ask : (q : Query) → σ → Answer q × σ

end FsidRegistry

import FsidRegistry.Binary64.Basic

/-!
Values of a TOML document. The keys of a table are in the order in which the document gives them.
-/

namespace FsidRegistry.Toml

/-- A value. -/
inductive Value
  | string (text : String)
  | integer (value : Int)
  | float (value : Binary64)
  | boolean (value : Bool)
  | datetime (text : String)
  | array (items : List Value)
  | table (entries : List (String × Value))
deriving Inhabited

/-- The keys of a table with their values. -/
abbrev Entries : Type := List (String × Value)

end FsidRegistry.Toml

import FsidRegistry.Store.Error
import FsidRegistry.Text.Quoted

/-!
Names of fsid tables. A table name stands inside the text of a statement, so only plain identifiers are
accepted: an ASCII letter or underscore, then ASCII letters, digits and underscores.
-/

namespace FsidRegistry

/-- Whether a character may stand inside a table name. -/
def isNameChar (c : Char) : Bool := c.isAlphanum || c == '_'

/-- Whether a text is a table name. -/
def isTableName (name : String) : Bool :=
  match name.toList with
  | [] => false
  | c :: cs => isNameChar c && !c.isDigit && cs.all isNameChar

/-- A name of an fsid table. -/
structure TableName where
  text : String
  valid : isTableName text
deriving DecidableEq

/-- The table name that a text is. -/
def TableName.ofText (text : String) : Except StoreError TableName :=
  if h : isTableName text then .ok ⟨text, h⟩
  else .error (.other ("invalid table name: " ++ Text.quoted text))

end FsidRegistry

/-!
Errors of reading a configuration document.
-/

namespace FsidRegistry.Toml

/-- Why a document was not read. -/
inductive Error
  /-- The text is not a document. -/
  | malformed
  /-- The document does not fit what is read from it. -/
  | mismatch (text : String)
deriving DecidableEq, Repr, Inhabited

/-- The text of an error. -/
def Error.message : Error → String
  | .malformed => "not a TOML document"
  | .mismatch text => text

end FsidRegistry.Toml

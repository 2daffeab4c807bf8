import FsidRegistry.Store.Connect
import FsidRegistry.Text.Percent
import FsidRegistry.Text.Quoted

/-!
A driver to run the programs with. It reads URLs as the driver of SQLite does and opens files of the host
in the way of its engine, as far as that can be seen from outside: an empty name stands for a file of its
own, a name that begins with `file:` is a URI, of which the parameters are left out, and names that are
too long in full are refused.
-/

namespace FsidRegistry.Sqlite

/-! URLs -/

/-- An error in a URL. -/
def configurationError (text : String) : StoreError := .driver (.configuration text)

/-- A text without all repetitions of `start` that it begins with. -/
def dropRepeated (start : List Char) : Nat → List Char → List Char
  | 0, s => s
  | fuel + 1, s => if start.isPrefixOf s then dropRepeated start fuel (s.drop start.length) else s

/-- The rest of a URL after its scheme. -/
def withoutScheme (url : String) : List Char :=
  let cs := url.toList
  dropRepeated "sqlite:".toList cs.length (dropRepeated "sqlite://".toList cs.length cs)

/-- The place that the first part of a URL names. -/
def readPlace (s : List Char) : Except StoreError DatabasePlace :=
  if s = ":memory:".toList then .ok .memory
  else
    let bytes : ByteArray := ⟨(Text.percentDecode (Text.encode (String.ofList s)).toList).toArray⟩
    match Text.decode? bytes with
    | some name => .ok (.file name)
    | none => .error (configurationError (Text.illFormedMessage bytes))

/-- An error for a value that a parameter cannot have. -/
def unknownValue (key value : String) : StoreError :=
  configurationError ("unknown value " ++ Text.quoted value ++ " for \x60" ++ key ++ "\x60")

/-- Applies a parameter. Those that steer caching change nothing here. -/
def applyParameter (u : DatabaseUrl) (parameter : String × String) : Except StoreError DatabaseUrl :=
  let (key, value) := parameter
  let oneOf (values : List String) : Except StoreError DatabaseUrl :=
    if values.contains value then .ok u else .error (unknownValue key value)
  match key with
  | "mode" =>
    match value with
    | "ro" => .ok { u with readOnly := true }
    | "rwc" => .ok { u with createIfMissing := true }
    | "memory" => .ok { u with place := .memory }
    | _ => oneOf ["rw"]
  | "cache" => oneOf ["private", "shared"]
  | "immutable" =>
    match value with
    | "true" | "1" => .ok { u with immutable := true }
    | "false" | "0" => .ok { u with immutable := false }
    | _ => .error (unknownValue key value)
  | "vfs" => .ok { u with layer := some value }
  | _ =>
    .error (configurationError ("unknown query parameter \x60" ++ key ++ "\x60 while parsing connection URL"))

/-- Reads a URL. -/
def readUrl (url : String) : Except StoreError DatabaseUrl := do
  let cs := withoutScheme url
  let place ← readPlace (cs.takeWhile (· != '?'))
  (Text.readParameters (String.ofList ((cs.dropWhile (· != '?')).drop 1))).foldlM applyParameter
    { place }

/-! Files -/

/-- The engine reports that it cannot open its file. -/
def cannotOpen : StoreError := databaseError "14" "unable to open database file" false

/-- The file system layers that the engine knows. -/
def layers : List String := ["unix", "unix-none", "unix-dotfile", "unix-excl", "memdb"]

/-- Refuses a file system layer that the engine does not know. -/
def checkLayer (url : DatabaseUrl) : Except StoreError Unit :=
  match url.layer with
  | none => .ok ()
  | some layer =>
    if layers.contains layer then .ok () else .error (databaseError "1" ("no such vfs: " ++ layer) false)

/-- The path in a URI of a file, without its scheme and its authority. -/
def pathOfUri (uri : List Char) : Except StoreError (List Char) :=
  match uri.drop "file:".length with
  | '/' :: '/' :: rest =>
    let authority := rest.takeWhile (· != '/')
    if authority.isEmpty || authority == "localhost".toList then .ok (rest.dropWhile (· != '/'))
    else .error (databaseError "1" ("invalid uri authority: " ++ String.ofList authority) false)
  | rest => .ok rest

/-- The name of a file as the engine takes it. -/
def readName (name : String) : Except StoreError String :=
  if "file:".isPrefixOf name then do
    let path := (← pathOfUri name.toList).takeWhile fun c => c != '?' && c != '#'
    let bytes := (Text.percentDecode (Text.encode (String.ofList path)).toList).takeWhile (· != 0)
    match Text.decode? ⟨bytes.toArray⟩ with
    | some name => .ok name
    | none => .error cannotOpen
  else .ok name

/-- The most bytes of the full name of a file. -/
def fullNameLimit : Nat := 504

/-- Whether the full name of a place is too long. -/
def isTooLong (place : Place) : Bool :=
  fullNameLimit < place.foldl (fun size name => size + name.utf8ByteSize + 1) 0

/-- Opens the database of a file. The empty name stands for a file of its own. Nothing is written to a
file that is taken never to change, even if it has just been created. -/
def openFile (files : Files) (url : DatabaseUrl) (name : String) :
    Except StoreError (OpenDatabase × Option Place) × Files :=
  let readOnly := url.readOnly || url.immutable
  if name.isEmpty || name == ":memory:" then (.ok ({ database := .empty, readOnly }, none), files)
  else
    match files.find true name with
    | .error _ => (.error cannotOpen, files)
    | .ok (place, entry) =>
      if isTooLong place then (.error cannotOpen, files)
      else
        match entry with
        | none =>
          if url.createIfMissing && !url.readOnly && !name.endsWith "/" then
            (.ok ({ database := .empty, readOnly }, some place), files.put place (.database .empty))
          else (.error cannotOpen, files)
        | some (.database database) => (.ok ({ database, readOnly }, some place), files)
        | some (.file content) =>
          if content.isEmpty then (.ok ({ database := .empty, readOnly }, some place), files)
          else (.ok ({ database := .empty, readOnly, foreign := true }, none), files)
        | some _ => (.error cannotOpen, files)

/-- Opens the file of a name. -/
def openNamed (files : Files) (url : DatabaseUrl) (name : String) :
    Except StoreError (OpenDatabase × Option Place) × Files :=
  if name.contains '\x00' then
    (.error (.driver (.io (.custom .invalidData "filename passed to SQLite must not contain nul bytes"))),
      files)
  else
    match readName name with
    | .error e => (.error e, files)
    | .ok name => openFile files url name

/-- Opens the database that a URL names. -/
def openDatabase (url : DatabaseUrl) (files : Files) :
    Except StoreError (OpenDatabase × Option Place) × Files :=
  match checkLayer url, url.place with
  | .error e, _ => (.error e, files)
  | _, .memory => (.ok ({ database := .empty }, none), files)
  | _, .file name => openNamed files url name

/-- The driver. -/
def driver : DatabaseDriver := ⟨readUrl, fun url _ => openDatabase url⟩

end FsidRegistry.Sqlite

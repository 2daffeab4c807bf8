import FsidRegistry.Dictionary
import FsidRegistry.Errno
import FsidRegistry.Store.Sql

/-!
The files of a host: a tree of directories, files, databases, symbolic links and socket files, and the
walk from a path to the place it names.
-/

namespace FsidRegistry

/-- What a place in the tree holds. -/
inductive Entry
  | file (content : ByteArray)
  | database (content : Database)
  | directory
  | link (target : String)
  /-- The file of the socket with this number, whether or not the socket is still open. -/
  | socket (id : Nat)
deriving Inhabited

/-- The names from the root to a place. -/
abbrev Place : Type := List String

/-- The tree of files. The root is always a directory. -/
structure Files where
  entries : Dictionary Place Entry
deriving Inhabited

namespace Files

/-- How many symbolic links a walk may follow. -/
def linkLimit : Nat := 40

/-- The most bytes of a path. -/
def pathLimit : Nat := 4095

/-- The most bytes of a name. -/
def nameLimit : Nat := 255

/-- What a place holds. -/
def entry? (fs : Files) (place : Place) : Option Entry :=
  if place.isEmpty then some .directory else fs.entries.get? place

/-- Puts an entry at a place. -/
def put (fs : Files) (place : Place) (e : Entry) : Files := ⟨fs.entries.insert place e⟩

/-- Removes the entry at a place. -/
def remove (fs : Files) (place : Place) : Files := ⟨fs.entries.erase place⟩

/-- The names in a path. -/
def names (path : String) : List String := (path.splitOn "/")

/-- Walks from the directory `at_` along names. Every name but the last must be a directory; a link
in the last place is followed if `follow` is set. `links` more links may be followed, and `fuel` bounds
the steps. -/
def walk (fs : Files) (follow : Bool) :
    Nat → Nat → Place → List String → Except Errno (Place × Option Entry)
  | 0, _, _, _ => .error .tooManyLinks
  | _, _, at_, [] => .ok (at_, fs.entry? at_)
  | fuel + 1, links, at_, name :: rest =>
    if name == "" || name == "." then walk fs follow fuel links at_ rest
    else if name == ".." then walk fs follow fuel links at_.dropLast rest
    else if nameLimit < name.utf8ByteSize then .error .nameTooLong
    else
      let place := at_ ++ [name]
      match fs.entry? place with
      | none => if rest.isEmpty then .ok (place, none) else .error .noEntry
      | some .directory => walk fs follow fuel links place rest
      | some (.link target) =>
        if rest.isEmpty && !follow then .ok (place, some (.link target))
        else if links == 0 then .error .tooManyLinks
        else
          let start := if target.startsWith "/" then [] else at_
          walk fs follow fuel (links - 1) start (names target ++ rest)
      | some e => if rest.isEmpty then .ok (place, some e) else .error .notDirectory

/-- The place that a path names and what it holds. Relative paths start at the root. -/
def find (fs : Files) (follow : Bool) (path : String) : Except Errno (Place × Option Entry) :=
  if path.isEmpty then .error .noEntry
  else if pathLimit < path.utf8ByteSize then .error .nameTooLong
  else fs.walk follow ((linkLimit + 1) * (pathLimit + 2)) linkLimit [] (names path)

/-- Removes what a path names: anything but a directory. -/
def unlink (fs : Files) (path : String) : Except Errno Files :=
  match fs.find false path with
  | .error e => .error e
  | .ok (_, none) => .error .noEntry
  | .ok (_, some .directory) => .error .isDirectory
  | .ok (place, some _) => .ok (fs.remove place)

/-- Puts an entry at the place that a path names, in place of what is there. -/
def write (fs : Files) (path : String) (e : Entry) : Except Errno Files :=
  (fs.find false path).map fun (place, _) => fs.put place e

/-- The names in a directory, in byte order. -/
def list (fs : Files) (directory : Place) : List String :=
  let inside := fs.entries.keys.filterMap fun p =>
    if p.dropLast == directory then p.getLast? else none
  inside.mergeSort fun a b => !(b.toUTF8.toList.map (·.toNat) < a.toUTF8.toList.map (·.toNat))

end Files

end FsidRegistry

import BucketDriver.Secret.Reference
import BucketDriver.Text.Utf8

/-!
# File trees

A file tree says for every path what lies there, if anything does. `readIn` reads the file at a path
below a root that is there: it goes down one component after the other and looks at nothing but the
entries on the way. Looking at an entry may have effects, in any monad; `FileTree.read` looks at the
entries of a tree, without any.
-/

namespace BucketDriver.Secret

/-- An entry of a file tree. -/
inductive Entry where
  | file (content : List UInt8)
  | directory
  deriving DecidableEq, Repr

/-- What lies at each path. -/
abbrev FileTree := Path → Option Entry

/-- Why a file cannot be read. -/
inductive FileError where
  | absent
  | isDirectory
  | notDirectory
  | nameTooLong
  | nulInName
  deriving DecidableEq, Repr

/-- The message of an error. -/
def FileError.message : FileError → String
  | absent => "No such file or directory (os error 2)"
  | isDirectory => "Is a directory (os error 21)"
  | notDirectory => "Not a directory (os error 20)"
  | nameTooLong => "File name too long (os error 36)"
  | nulInName => "file name contained an unexpected NUL byte"

/-- The most bytes of a component. -/
def componentLimit : Nat := 255

/-- The most bytes of a path, with a separator for each component. -/
def pathLimit : Nat := 4095

/-- The number of bytes of a path. -/
def pathSize (p : Path) : Nat :=
  p.foldr (fun c size => (Text.Utf8.encode c).length + 1 + size) 0

section Looks

variable {m : Type → Type} [Monad m]

/-- Goes down from a directory. -/
def descendIn (look : Path → m (Option Entry)) (above : Path) :
    Path → m (Except FileError (List UInt8))
  | [] => pure (.error .isDirectory)
  | c :: below =>
    if componentLimit < (Text.Utf8.encode c).length then pure (.error .nameTooLong)
    else do
      match ← look (above ++ [c]) with
      | none => pure (.error .absent)
      | some .directory => descendIn look (above ++ [c]) below
      | some (.file content) => pure (if below = [] then .ok content else .error .notDirectory)

/-- The content of the file at a place below a root, with the effects of looking for it. -/
def readIn (look : Path → m (Option Entry)) (root place : Path) :
    m (Except FileError (List UInt8)) :=
  if place.any (·.toList.contains '\x00') then pure (.error .nulInName)
  else if pathLimit < pathSize (root ++ place) then pure (.error .nameTooLong)
  else descendIn look root place

end Looks

namespace FileTree

/-- The content of the file at a place below a root. -/
def read (tree : FileTree) (root place : Path) : Except FileError (List UInt8) :=
  (readIn (m := Id) (fun path => pure (tree path)) root place).run

/-- A tree with an entry at a path, and a directory at each path above it that was free. -/
def withEntry (tree : FileTree) (path : Path) (entry : Entry) : FileTree := fun p =>
  if p = path then some entry
  else if p.isPrefixOf path && (tree p).isNone then some .directory
  else tree p

/-- The tree without entries. -/
def empty : FileTree := fun _ => none

end FileTree

end BucketDriver.Secret

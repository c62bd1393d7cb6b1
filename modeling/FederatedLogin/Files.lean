import FederatedLogin.Store.Table
import FederatedLogin.Text.Separated
import FederatedLogin.Text.Utf8

/-!
# Files

A command sees the files around it: texts, directories and databases, under absolute paths.  A
relative path starts at the working directory.  Every directory on the way to a file exists, and so
do the working directory and the directories on the way to it.

A name of a file is a row of bytes, mostly the UTF-8 form of a text.
-/

namespace FederatedLogin

open FederatedLogin.Text

/-- What stands under a path. -/
inductive FileContent where
  | text (source : String)
  | directory
  | database (table : Store.Table)
  deriving DecidableEq, Repr

/-- The names of an absolute path. -/
abbrev FilePath := List (List UInt8)

/-- The files that a command sees. -/
structure Files where
  entries : List (FilePath × FileContent) := []
  workingDirectory : FilePath := []

namespace Files

/-- The slash. -/
def slash : UInt8 :=
  0x2F

/-- The name of a place in itself. -/
def here : List UInt8 :=
  Utf8.encode "."

/-- The name of the directory above. -/
def above : List UInt8 :=
  Utf8.encode ".."

/-- The names in a path that lead somewhere: neither empty nor the place itself. -/
def partsOf (path : List UInt8) : FilePath :=
  (partsAt slash path).filter fun part => !part.isEmpty && part != here

/-- The names in a path that is written as a text. -/
def namesIn (path : String) : FilePath :=
  partsOf (Utf8.encode path)

/-- The names of a path from the root, with steps upwards still in it. -/
def absolute (files : Files) (path : List UInt8) : FilePath :=
  if path.head? = some slash then partsOf path else files.workingDirectory ++ partsOf path

/-- What stands under a path. -/
def content? (files : Files) (path : FilePath) : Option FileContent :=
  files.entries.lookup path

/-- Whether a path is a directory, be it only on the way to something. -/
def isDirectory (files : Files) (path : FilePath) : Bool :=
  files.content? path == some .directory || path.isPrefixOf files.workingDirectory ||
    files.entries.any fun entry => path.isPrefixOf entry.1 && path.length < entry.1.length

/-- The path after a step that is followed by its wording: a step upwards undoes the one before. -/
def step (reached : FilePath) (part : List UInt8) : FilePath :=
  if part = above then reached.dropLast else reached ++ [part]

/-- Follows the names of a path from a directory; a step upwards needs the directory it leaves. -/
def walk? (files : Files) (reached : FilePath) : FilePath → Option FilePath
  | [] => some reached
  | part :: rest =>
      if part = above ∧ !files.isDirectory reached then none
      else files.walk? (step reached part) rest

/-- The longest name of a file. -/
def maxNameLength : Nat :=
  255

/-- The longest path that can be looked up. -/
def maxPathLength : Nat :=
  4095

/-- The length of an absolute path. -/
def pathLength (path : FilePath) : Nat :=
  path.foldr (fun part length => part.length + 1 + length) 0

/-- The length of a path in its plainest wording.  Two slashes in front, and no more, are kept. -/
def plainLength (path : List UInt8) : Nat :=
  let length := pathLength (partsOf path)
  match path with
  | first :: rest =>
      if first ≠ slash then length - 1
      else if rest.head? = some slash ∧ (rest.drop 1).head? ≠ some slash then length + 1
      else length
  | [] => length

/-- Whether following the names of a path comes to one that is too long in a directory that
exists. -/
def meetsLongName (files : Files) (reached : FilePath) : FilePath → Bool
  | [] => false
  | part :: rest =>
      files.isDirectory reached &&
        (maxNameLength < part.length || files.meetsLongName (step reached part) rest)

/-- Whether a path cannot be looked up because of its length. -/
def isTooLong (files : Files) (path : String) : Bool :=
  let path := Utf8.encode path
  maxPathLength < plainLength path || files.meetsLongName [] (files.absolute path)

/-- The place that a path leads to, if the way to it exists. -/
def reach? (files : Files) (path : List UInt8) : Option FilePath :=
  files.walk? [] (files.absolute path)

/-- What a path leads to. -/
def find? (files : Files) (path : String) : Option FileContent :=
  (files.reach? (Utf8.encode path)).bind files.content?

/-- Whether a path ends in a way that only a directory may be named. -/
def asksForDirectory (path : List UInt8) : Bool :=
  (partsAt slash path).getLast?.any fun part => part.isEmpty || part == here

/-- Whether a path leads to something. -/
def leadsSomewhere (files : Files) (path : List UInt8) : Bool :=
  !path.isEmpty && (files.reach? path).any fun place =>
    files.isDirectory place || (!asksForDirectory path && (files.content? place).isSome)

/-- The wording of an absolute path. -/
def written (path : FilePath) : List UInt8 :=
  slash :: joinAt slash path

/-- The place that a path means by its wording. -/
def placeOf (files : Files) (path : List UInt8) : FilePath :=
  (files.absolute path).foldl step []

/-- Takes away what stands under a path. -/
def remove (files : Files) (path : FilePath) : Files :=
  { files with entries := files.entries.filter fun entry => entry.1 != path }

/-- Puts a content under a path. -/
def put (files : Files) (path : FilePath) (content : FileContent) : Files :=
  { files with entries := (files.remove path).entries ++ [(path, content)] }

end Files

end FederatedLogin

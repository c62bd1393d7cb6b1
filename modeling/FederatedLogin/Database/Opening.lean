import FederatedLogin.Database.Connection
import FederatedLogin.Database.FileUri
import FederatedLogin.Files
import FederatedLogin.Store.Backend

/-!
# Opening a database

A connection is made to a database in memory or in a file, and the user table is made if it is not
there.  A file that is missing or holds next to nothing is an empty database.

Beside a database lie its journals while it is changed, so the name of a file has to leave room for
the names of these, and none of them may be a directory.
-/

namespace FederatedLogin

open FederatedLogin.Text

/-- What the name of a database asks for. -/
structure DatabaseTarget where
  path : List UInt8
  mode : FileMode := .create
  /-- Whether the file lies in a file system in memory. -/
  isVolatile : Bool := false
  /-- Whether the file is known to change no more. -/
  isImmutable : Bool := false
  /-- The file whose permissions are taken over. -/
  model : Option (List UInt8) := none
  deriving DecidableEq, Repr

namespace DatabaseTarget

/-- What a URI asks for, if its options are in order. -/
def ofUri? (uri : FileUri) : Option DatabaseTarget := do
  let mode ← uri.mode?
  let isVolatile ← uri.isVolatile?
  if uri.isCacheKnown then
    return {
      path := uri.path, mode, isVolatile
      isImmutable := uri.isImmutable
      model := uri.value? "modeof" }
  else none

/-- What a name asks for that may be a URI. -/
def ofName? (name : List UInt8) : Option DatabaseTarget :=
  if FileUri.scheme.isPrefixOf name then
    (FileUri.ofBytes? (name.drop FileUri.scheme.length)).bind ofUri?
  else
    some { path := name }

/-- Whether the database is kept in memory, without a file. -/
def isFileless (target : DatabaseTarget) : Bool :=
  target.mode == .memory || target.path.isEmpty ||
    target.path == Utf8.encode Connection.memoryName

/-- The longest path of a file in memory. -/
def maxVolatileLength : Nat :=
  1016

/-- Whether a database that is kept in memory can be used. -/
def isUsableInMemory (target : DatabaseTarget) : Bool :=
  target.mode != .readOnly &&
    (target.isFileless || (!target.isImmutable && target.path.length ≤ maxVolatileLength))

end DatabaseTarget

/-- A database that is open: what it holds, where it is kept, and how far it can be used. -/
structure OpenDatabase where
  table : Store.Table
  place : Option FilePath := none
  access : Access := {}
  deriving DecidableEq, Repr

namespace OpenDatabase

/-- The longest path to a database. -/
def maxPathLength : Nat :=
  504

/-- The longest path that may come about on the way to a database. -/
def maxPartialLength : Nat :=
  511

/-- The most bytes that an empty database may hold. -/
def maxEmptySize : Nat :=
  1

/-- The endings of the names of journals. -/
def journalEndings : List String :=
  ["-journal", "-wal"]

/-- The path of a journal. -/
def journal (place : FilePath) (ending : String) : FilePath :=
  place.dropLast ++ [place.getLastD [] ++ Utf8.encode ending]

/-- Whether the name of a database leaves room for that of its journal. -/
def leavesRoom (place : FilePath) : Bool :=
  ((journal place "-journal").getLastD []).length ≤ Files.maxNameLength

/-- Whether a name can be looked up in what has been reached. -/
def admits (files : Files) (reached : FilePath) (part : List UInt8) : Bool :=
  match files.content? reached with
  | some (.text _) | some (.database _) => false
  | _ => part.length ≤ Files.maxNameLength || !files.isDirectory reached

/-- Follows one name on the way to a database. -/
def advance? (files : Files) (reached : FilePath) (part : List UInt8) : Option FilePath :=
  let next := Files.step reached part
  if part = Files.above then some next
  else if admits files reached part && Files.pathLength next ≤ maxPartialLength then some next
  else none

/-- The place that a path to a database means by its wording, if every name on the way can be
looked up. -/
def place? (files : Files) (path : List UInt8) : Option FilePath :=
  ((files.absolute path).foldlM (advance? files) []).filter fun place =>
    Files.pathLength place ≤ maxPathLength

/-- What a file holds as a database: its table, if it has one. -/
def tableIn? (files : Files) (place : FilePath) (mode : FileMode) : Option (Option Store.Table) :=
  match files.content? place with
  | some (.database table) => some (some table)
  | some (.text source) => if source.utf8ByteSize ≤ maxEmptySize then some none else none
  | some .directory => none
  | none =>
      if mode = .create ∧ !files.isDirectory place ∧ files.isDirectory place.dropLast then some none
      else none

/-- Whether no journal is in the way.  One that is a directory is in the way of everything; one that
was left behind has to be worked off, which changes the database. -/
def isClear (files : Files) (place : FilePath) (isWritable hasTable : Bool) : Bool :=
  (journalEndings.all fun ending => !files.isDirectory (journal place ending)) &&
    (isWritable || !hasTable ||
      match files.content? (journal place "-journal") with
      | some (.text source) => (source.toList.head?.getD '\x00') == '\x00'
      | _ => true)

/-- The files without the journals of a database that were left behind. -/
def withoutJournals (files : Files) (place : FilePath) : Files :=
  journalEndings.foldl (fun files ending => files.remove (journal place ending)) files

/-- Opens a database in a file. -/
def inFile (files : Files) (target : DatabaseTarget) (access : Access) :
    Files × Option OpenDatabase :=
  match place? files target.path with
  | none => (files, none)
  | some place =>
      match tableIn? files place target.mode with
      | none => (files, none)
      | some table =>
          if !(target.model.all files.leadsSomewhere) then (files, none)
          else
            let files := if (files.content? place).isSome then files else files.put place (.text "")
            let isWritable := target.mode != .readOnly && !target.isImmutable
            if !(target.isImmutable || isClear files place isWritable table.isSome) then
              (files, none)
            else
              let files := if isWritable then withoutJournals files place else files
              match table with
              | some table => (files, some ⟨table, some place, { access with isWritable }⟩)
              | none =>
                  if isWritable && leavesRoom place then
                    (files.put place (.database .empty), some ⟨.empty, some place, access⟩)
                  else
                    (files, none)

/-- Opens a database. -/
def ofTarget (files : Files) (target : DatabaseTarget) (access : Access) :
    Files × Option OpenDatabase :=
  if target.isFileless || target.isVolatile then
    (files, if target.isUsableInMemory then some { table := .empty, access } else none)
  else
    inFile files target access

end OpenDatabase

namespace Connection

/-- Whether an integer fits thirty-two bits. -/
def fitsWord (value : Int) : Bool :=
  -0x80000000 ≤ value && value < 0x80000000

/-- What is wrong with the parameters of a connection, if something is. -/
def trouble? (connection : Connection) : Option Trouble :=
  if !fitsWord connection.detection then some .integerTooLarge
  else if connection.isolation.isSome then some .malformedValue
  else if !fitsWord connection.cachedStatements then some .integerTooLarge
  else if connection.name.toList.contains '\x00' then some .malformedValue
  else none

/-- What the database of a connection asks for. -/
def target? (files : Files) (connection : Connection) : Option DatabaseTarget :=
  let name := Utf8.encode connection.name
  if connection.isUri then DatabaseTarget.ofName? name
  else if connection.name = memoryName then some { path := name }
  else some { path := Files.written (files.placeOf name) }

/-- Opens the database of a connection and makes its table.  The lowest bit of the detection turns
times into a form that is not read. -/
def connect (files : Files) (connection : Connection) : Files × Except Failure OpenDatabase :=
  match connection.trouble? with
  | some trouble => (files, .error (.outside trouble))
  | none =>
      match target? files connection with
      | none => (files, .error (.storage .schemaFailed))
      | some target =>
          let access : Access := { readsTimes := connection.detection % 2 == 0 }
          match OpenDatabase.ofTarget files target access with
          | (files, some opened) => (files, .ok opened)
          | (files, none) => (files, .error (.storage .schemaFailed))

end Connection

end FederatedLogin

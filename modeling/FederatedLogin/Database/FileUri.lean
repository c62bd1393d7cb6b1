import FederatedLogin.Text.Percent
import FederatedLogin.Text.Separated

/-!
# File URIs

A database file may be named by a URI: the scheme `file:`, an authority that is empty or the local
host, a path, and options after a question mark.  What follows a hash sign is not looked at.  Path
and options are percent-encoded bytes; each of them ends where a zero byte is encoded.

The options say how far the file may be changed, which file system it lies in, and whether it is
known to change no more.
-/

namespace FederatedLogin

open FederatedLogin.Text

/-- How far a database file may be changed. -/
inductive FileMode where
  | readOnly
  | readWrite
  /-- As `readWrite`; the file is made if it is missing. -/
  | create
  /-- There is no file; the database is kept in memory. -/
  | memory
  deriving DecidableEq, Repr

/-- A file URI. -/
structure FileUri where
  path : List UInt8
  /-- The options under their names, which are not empty. -/
  options : List (List UInt8 × List UInt8)
  deriving DecidableEq, Repr

namespace FileMode

/-- What a mode allows, as a rank; memory is out of rank. -/
def rank : FileMode → Nat
  | .readOnly => 1
  | .readWrite => 2
  | .create => 3
  | .memory => 0

/-- Whether a mode may take the place of another: none may allow more than the one before it, and
memory binds nothing. -/
def mayFollow (next previous : FileMode) : Bool :=
  previous == .memory || next.rank ≤ previous.rank

/-- The mode with a name. -/
def named? (name : List UInt8) : Option FileMode :=
  [("ro", readOnly), ("rw", readWrite), ("rwc", create), ("memory", memory)].findSome?
    fun (known, mode) => if Utf8.encode known = name then some mode else none

end FileMode

namespace FileUri

/-- The scheme. -/
def scheme : List UInt8 :=
  Utf8.encode "file:"

/-- What percent-encoded bytes stand for, up to the first zero byte. -/
def decoded (bytes : List UInt8) : List UInt8 :=
  (Percent.decodeBytes bytes).takeWhile (· != 0)

/-- The name and the value of an option; an option without a name is none. -/
def option? (source : List UInt8) : Option (List UInt8 × List UInt8) :=
  let (name, value) := (splitFirst? 0x3D source).getD (source, [])
  if (decoded name).isEmpty then none else some (decoded name, decoded value)

/-- What follows the authority, if that is empty or the local host. -/
def afterAuthority? : List UInt8 → Option (List UInt8)
  | 0x2F :: 0x2F :: rest =>
      let authority := rest.takeWhile (· != 0x2F)
      if authority.isEmpty ∨ authority = Utf8.encode "localhost" then
        some (rest.drop authority.length)
      else
        none
  | source => some source

/-- The URI that bytes write after the scheme; they write none with a foreign authority. -/
def ofBytes? (source : List UInt8) : Option FileUri :=
  (afterAuthority? source).map fun rest =>
    let rest := rest.takeWhile (· != 0x23)
    match splitFirst? 0x3F rest with
    | none => ⟨decoded rest, []⟩
    | some (path, options) => ⟨decoded path, (partsAt 0x26 options).filterMap option?⟩

/-- The first value of an option. -/
def value? (uri : FileUri) (name : String) : Option (List UInt8) :=
  uri.options.lookup (Utf8.encode name)

/-- All values of an option, in their order. -/
def values (uri : FileUri) (name : String) : List (List UInt8) :=
  (uri.options.filter (·.1 == Utf8.encode name)).map Prod.snd

/-- The mode that the options leave, if each of them names a mode that may follow the one before
it. -/
def mode? (uri : FileUri) : Option FileMode :=
  (uri.values "mode").foldlM (fun mode name => do
    let next ← FileMode.named? name
    if next.mayFollow mode then some next else none) .create

/-- The ways in which a cache may be used. -/
def cacheNames : List String :=
  ["shared", "private"]

/-- Whether the options of the cache are in order. -/
def isCacheKnown (uri : FileUri) : Bool :=
  (uri.values "cache").all (cacheNames.map Utf8.encode).contains

/-- The file systems that lie on a disk, with the usual one in front. -/
def diskSystems : List String :=
  ["unix", "unix-none", "unix-dotfile", "unix-excl"]

/-- The file system that lies in memory. -/
def memorySystem : String :=
  "memdb"

/-- Whether the file lies in memory, if the file system is one of those that are known.  Of several
options the last one counts. -/
def isVolatile? (uri : FileUri) : Option Bool :=
  match (uri.values "vfs").getLast? with
  | none => some false
  | some name =>
      if name = Utf8.encode memorySystem then some true
      else if (diskSystems.map Utf8.encode).contains name then some false
      else none

/-- The words for a truth value; no letter case counts. -/
def isTrueWord (word : List UInt8) : Bool :=
  ["on", "yes", "true"].any fun known =>
    known == String.ofList ((word.map fun byte => Char.ofNat byte.toNat).map Char.toLower)

/-- The number in front of bytes, in base ten, or in base sixteen after `0x`; a number that does not
fit 32 bits is zero. -/
def numberIn (bytes : List UInt8) : Nat :=
  let digits := bytes.map fun byte => Char.ofNat byte.toNat
  let number :=
    match digits with
    | '0' :: mark :: rest =>
        if (mark = 'x' ∨ mark = 'X') ∧ (rest.head?.any fun digit => (hexValue? digit).isSome) then
          (rest.takeWhile fun digit => (hexValue? digit).isSome).foldl
            (fun number digit => number * 16 + (hexValue? digit).getD 0) 0
        else naturalOfDigits (digits.takeWhile isAsciiDigit)
    | _ => naturalOfDigits (digits.takeWhile isAsciiDigit)
  if number < 0x80000000 then number else 0

/-- Whether a value says that something is so.  Of a number, only the lowest byte counts. -/
def isAffirmed (value : List UInt8) : Bool :=
  if value.head?.any fun byte => isAsciiDigit (Char.ofNat byte.toNat) then
    numberIn value % 256 != 0
  else
    isTrueWord value

/-- Whether the file is known to change no more. -/
def isImmutable (uri : FileUri) : Bool :=
  (uri.value? "immutable").any isAffirmed

example : ofBytes? (Utf8.encode "//localhost/a%62%00c?mode=ro&=x&%63#?") =
    some ⟨Utf8.encode "/ab", [(Utf8.encode "mode", Utf8.encode "ro"), (Utf8.encode "c", [])]⟩ := by
  decide +kernel

example : ofBytes? (Utf8.encode "//?mode=ro") = none := by decide +kernel

end FileUri

end FederatedLogin

import FederatedLogin.Text.CodePoint

/-!
# JSON values

A value is what a document means.  Integers and real numbers are different values, because a
schema may ask for one of them; strings are code points, surrogates included.

The members of an object stand in the order of the document.  Where several have one name, the
last of them counts: `member?` looks it up, and `entries` lists every name once.
-/

namespace FederatedLogin.Json

open FederatedLogin.Text

/-- The name of a member. -/
abbrev Key := CodeString

/-- A JSON value. -/
inductive Value where
  | null
  | bool (value : Bool)
  | integer (value : Int)
  | real (value : Float)
  | string (points : CodeString)
  | array (items : List Value)
  | object (members : List (Key × Value))
  deriving Inhabited

/-- A member of an object: its name and its value. -/
abbrev Member := Key × Value

namespace Value

/-- The value of a text. -/
def text (source : String) : Value :=
  .string (CodePoint.ofText source)

/-- The value of a text that may be missing. -/
def optionalText : Option String → Value
  | none => .null
  | some source => text source

/-- An object with these members. -/
def record (members : List (String × Value)) : Value :=
  .object (members.map fun member => (CodePoint.ofText member.1, member.2))

/-- The last value among members under a name. -/
def lastUnder? (name : Key) : List Member → Option Value
  | [] => none
  | (key, value) :: rest =>
      match lastUnder? name rest with
      | some later => some later
      | none => if key = name then some value else none

@[simp]
theorem lastUnder?_nil (name : Key) : lastUnder? name [] = none := by
  simp [lastUnder?]

/-- A member that stands after all others of its name is the one that counts. -/
theorem lastUnder?_append_of_some {name : Key} {value : Value} (before : List Member)
    {after : List Member} (found : lastUnder? name after = some value) :
    lastUnder? name (before ++ after) = some value := by
  induction before with
  | nil => exact found
  | cons member rest ih => simp [lastUnder?, ih]

/-- The member of an object under a name; other values have none. -/
def member? (name : String) : Value → Option Value
  | .object members => lastUnder? (CodePoint.ofText name) members
  | _ => none

/-- Puts a value under a name: in place of the value that is there, or at the end. -/
def put (members : List Member) (name : Key) (value : Value) : List Member :=
  match members with
  | [] => [(name, value)]
  | (key, old) :: rest =>
      if key = name then (key, value) :: rest else (key, old) :: put rest name value

/-- The members of an object with every name once, in the order in which the names first appear,
each with the value that counts. -/
def entries (members : List Member) : List Member :=
  members.foldl (fun found member => put found member.1 member.2) []

/-- Whether a value counts as nothing: null, false, a zero, or something empty. -/
def isVoid : Value → Bool
  | .null => true
  | .bool value => !value
  | .integer value => value == 0
  | .real value => value == 0
  | .string points => points.isEmpty
  | .array items => items.isEmpty
  | .object members => members.isEmpty

/-- The text of a string; other values have none. -/
def points? : Value → Option CodeString
  | .string points => some points
  | _ => none

end Value

end FederatedLogin.Json

import FederatedLogin.Json.Value
import FederatedLogin.Number.Shortest
import FederatedLogin.Text.Quoted

/-!
# Values within messages

A message that mentions a value shows it on one line: strings between quotes, arrays and objects in
brackets, and a word for what is missing, true or false.  On its own a string is shown as it is.
-/

namespace FederatedLogin.Json

open FederatedLogin.Text FederatedLogin.Number

namespace Shown

/-- What is shown in place of something that is missing. -/
def missing : String :=
  "None"

/-- A truth value. -/
def flag (value : Bool) : String :=
  if value then "True" else "False"

/-- Texts with commas between them. -/
def commaSeparated (parts : List String) : String :=
  ", ".intercalate parts

mutual

/-- A value with its strings between quotes. -/
def nested : Value → String
  | .null => missing
  | .bool value => flag value
  | .integer number => toString number
  | .real number => Shortest.text number
  | .string points => quoted points
  | .array items => "[" ++ commaSeparated (nestedItems items) ++ "]"
  | .object members => "\x7b" ++ commaSeparated (nestedMembers members) ++ "\x7d"

/-- The items of an array. -/
def nestedItems : List Value → List String
  | [] => []
  | item :: rest => nested item :: nestedItems rest

/-- The members of an object, each name between quotes before its value. -/
def nestedMembers : List (Key × Value) → List String
  | [] => []
  | (name, member) :: rest =>
      (quoted name ++ ": " ++ nested member) :: nestedMembers rest

end

/-- A value on its own. -/
def plain : Value → CodeString
  | .string points => points
  | value => nested value

/-- Several values together: none is no text, one is shown on its own, more stand in brackets. -/
def together : List Value → CodeString
  | [] => []
  | [value] => plain value
  | values => ("(" ++ commaSeparated (nestedItems values) ++ ")" : String)

example : nested (.array [.null, .bool true, .text "it's", .record [("a", .integer 1)]]) =
    "[None, True, \"it's\", \x7b'a': 1\x7d]" := by
  decide +kernel

example : together [.text "a", .integer 2] = ("('a', 2)" : String) ∧
    together [.text "a"] = ("a" : String) := by
  decide +kernel

end Shown

end FederatedLogin.Json

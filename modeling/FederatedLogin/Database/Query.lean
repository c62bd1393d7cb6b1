import FederatedLogin.Store.Index
import FederatedLogin.Text.Percent
import FederatedLogin.Text.Quoted
import FederatedLogin.Text.Separated

/-!
# Queries

A query is a row of fields between ampersands, each a name and a value around the first equals
sign.  A field without an equals sign, or with nothing behind it, is passed over.  A name that
occurs more than once has several values, in the order of its fields.
-/

namespace FederatedLogin

open FederatedLogin.Store FederatedLogin.Text

/-- What a query says under a name. -/
inductive Parameter where
  | single (value : String)
  | several (values : List String)
  deriving DecidableEq, Repr

namespace Parameter

/-- A parameter with one more value. -/
def add (value : String) : Parameter → Parameter
  | .single first => .several [first, value]
  | .several values => .several (values ++ [value])

/-- A parameter as it is written: several values stand in parentheses, each of them quoted. -/
def text : Parameter → String
  | .single value => value
  | .several values =>
      "(" ++ ", ".intercalate (values.map fun (value : String) => quoted value) ++ ")"

end Parameter

/-- The names of a query with what it says under them, in the order of their first fields. -/
abbrev Query := Index String Parameter

namespace Query

/-- What the characters of a field stand for: a plus sign is a blank. -/
def decoded (source : List Char) : String :=
  Percent.decode (source.map fun value => if value = '+' then ' ' else value)

/-- A query with one more field. -/
def addField (query : Query) (field : List Char) : Query :=
  match splitFirst? '=' field with
  | none | some (_, []) => query
  | some (name, value) =>
      let name := decoded name
      match query.get? name with
      | none => query.put name (.single (decoded value))
      | some parameter => query.put name (parameter.add (decoded value))

/-- The query that a text writes. -/
def ofChars (source : List Char) : Query :=
  (partsAt '&' source).foldl addField []

example : ofChars "a=1&b&c=&a=%32+&=x".toList =
    [("a", .several ["1", "2 "]), ("", .single "x")] := by
  decide +kernel

example : (Parameter.several ["1", "it's"]).text = "('1', \"it's\")" := by decide +kernel

end Query

end FederatedLogin

import FederatedLogin.Json.Token
import FederatedLogin.Platform

/-!
# Reading JSON

The grammar is a machine over tokens with an explicit stack.  Its state says what must come next,
and the stack holds the arrays and objects that are still open.  A document is one value with
nothing after it.

Documents that nest deeper than the platform allows are refused.
-/

namespace FederatedLogin.Json

open FederatedLogin.Text

variable [Platform]

/-- An open array or object, with what it holds so far, last first. -/
inductive Frame where
  | array (items : List Value)
  | object (members : List Member) (name : Key)

/-- What must come next. -/
inductive Awaiting where
  | value
  | itemOrClose
  | nameOrClose
  | name (members : List Member)
  | colon (members : List Member) (name : Key)
  | afterValue (value : Value)

namespace Reader

/-- A token that starts a value. -/
def startValue (stack : List Frame) : Token → Option (Awaiting × List Frame)
  | .scalar value => some (.afterValue value, stack)
  | .text points => some (.afterValue (.string points), stack)
  | .openArray =>
      if stack.length < nestingLimit then some (.itemOrClose, .array [] :: stack) else none
  | .openObject =>
      if stack.length < nestingLimit then some (.nameOrClose, stack) else none
  | _ => none

/-- One step of the grammar. -/
def step : Awaiting × List Frame → Token → Option (Awaiting × List Frame)
  | (.value, stack), token => startValue stack token
  | (.itemOrClose, .array [] :: stack), .closeArray => some (.afterValue (.array []), stack)
  | (.itemOrClose, stack), token => startValue stack token
  | (.nameOrClose, stack), .closeObject => some (.afterValue (.object []), stack)
  | (.nameOrClose, stack), .text name => some (.colon [] name, stack)
  | (.name members, stack), .text name => some (.colon members name, stack)
  | (.colon members name, stack), .colon => some (.value, .object members name :: stack)
  | (.afterValue value, .array items :: stack), .comma =>
      some (.value, .array (value :: items) :: stack)
  | (.afterValue value, .array items :: stack), .closeArray =>
      some (.afterValue (.array (value :: items).reverse), stack)
  | (.afterValue value, .object members name :: stack), .comma =>
      some (.name ((name, value) :: members), stack)
  | (.afterValue value, .object members name :: stack), .closeObject =>
      some (.afterValue (.object ((name, value) :: members).reverse), stack)
  | _, _ => none

/-- Runs the grammar over tokens. -/
def run : Awaiting × List Frame → List Token → Option (Awaiting × List Frame)
  | state, [] => some state
  | state, token :: rest =>
      match step state token with
      | some next => run next rest
      | none => none

end Reader

namespace Value

/-- The value of a sequence of tokens. -/
def ofTokens? (tokens : List Token) : Option Value :=
  match Reader.run (.value, []) tokens with
  | some (.afterValue value, []) => some value
  | _ => none

/-- The value of a document. -/
def ofPoints? (document : List CodePoint) : Option Value :=
  (Token.ofPoints? document).bind ofTokens?

/-- The value of a document that is given as a text. -/
def ofText? (document : String) : Option Value :=
  ofPoints? (CodePoint.ofText document)

/-- The value of a document that is given as bytes, in any of the accepted encodings. -/
def ofBytes? (document : List UInt8) : Option Value :=
  (Encoding.decodeDetected? document).bind ofPoints?

end Value

end FederatedLogin.Json

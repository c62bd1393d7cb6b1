import FederatedLogin.Failure.Account
import FederatedLogin.Json.Printer
import FederatedLogin.Logging.Filling
import FederatedLogin.Logging.Level
import FederatedLogin.Logging.Timestamp

/-!
# Log records of other libraries

Other libraries log a template and its values.  `LogRecord.line` makes such a record one JSON line:
the message, the level, the logger, the time, and the failure it is about, if there is one.
-/

namespace FederatedLogin.Logging

open FederatedLogin.Text

/-- A record of another library. -/
structure LogRecord where
  logger : String
  /-- An integer, unless the record was made by hand. -/
  level : Json.Value
  template : String
  values : List Json.Value
  /-- Seconds since the start of the year 1970. -/
  created : Float
  failure : Option Account

namespace LogRecord

/-- The name of the kind of a failure, with the family it belongs to. -/
def kindOf (failure : Account) : String :=
  if failure.isOfFamily then "token_federation.errors." ++ failure.kind else failure.kind

/-- A failure by its kind and its wording. -/
def failureText (failure : Account) : CodeString :=
  if failure.wording = [] then kindOf failure
  else CodePoint.ofText (kindOf failure ++ ": ") ++ failure.wording

/-- What a record says, apart from its time. -/
def content (record : LogRecord) : Except Trouble (List (String × Json.Value)) := do
  if !Level.isSought record.level then throw .typeMismatch
  let message ← Template.message record.template record.values
  let level ← Level.textOf record.level
  return [("event", .string message), ("level", .string level), ("logger", .text record.logger)]

/-- The line of a record. -/
def line (record : LogRecord) : Except Trouble String := do
  let content ← record.content
  let time ← Timestamp.text record.created
  let failure := (record.failure.map fun failure =>
    ("exception", Json.Value.string (failureText failure))).toList
  return (Json.Value.record
    (content ++ ("timestamp", .text time) :: failure)).print .ascii

end LogRecord

end FederatedLogin.Logging

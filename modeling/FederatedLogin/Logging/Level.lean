import FederatedLogin.Failure
import FederatedLogin.Json.Shown

/-!
# Log levels

Levels are integers, and the usual ones have names.  A name may be written with small letters; it
is looked up in capitals, as the full case mapping of Unicode makes them.
-/

namespace FederatedLogin.Logging.Level

open FederatedLogin.Text

/-- The level of ordinary news. -/
def info : Int :=
  20

/-- The level of what deserves attention. -/
def warning : Int :=
  30

/-- The levels by their names. -/
def named : List (String × Int) :=
  [("CRITICAL", 50), ("FATAL", 50), ("ERROR", 40), ("WARNING", warning), ("WARN", warning),
   ("INFO", info), ("DEBUG", 10), ("NOTSET", 0)]

/-- The capitals of a character.  Characters are left alone where their capitals are not ASCII:
no name is made of such. -/
def capitals (value : Char) : List Char :=
  match value with
  | 'ß' => ['S', 'S']
  | 'ı' => ['I']
  | 'ſ' => ['S']
  | 'ﬀ' => ['F', 'F']
  | 'ﬁ' => ['F', 'I']
  | 'ﬂ' => ['F', 'L']
  | 'ﬃ' => ['F', 'F', 'I']
  | 'ﬄ' => ['F', 'F', 'L']
  | 'ﬅ' | 'ﬆ' => ['S', 'T']
  | value => [value.toUpper]

/-- A name in capitals. -/
def capitalised (name : String) : String :=
  String.ofList (name.toList.flatMap capitals)

/-- The level of a name.  An unknown name means `info`; two names belong to other constants of the
log system, a template and a table, and are no levels. -/
def ofName (name : String) : Except Trouble Int :=
  match capitalised name with
  | "BASIC_FORMAT" => .error .unknownLevel
  | "_STYLES" => .error .typeMismatch
  | capitals => .ok ((named.lookup capitals).getD info)

/-- The level that an environment asks for. -/
def ofSetting : Option String → Except Trouble Int
  | some name => ofName name
  | none => .ok info

/-- The name under which a level is written. -/
def text (level : Int) : String :=
  if level = 50 then "critical"
  else if level = 40 then "error"
  else if level = 30 then "warning"
  else if level = 20 then "info"
  else if level = 10 then "debug"
  else if level = 0 then "notset"
  else "level " ++ toString level

/-- The integer that a value is; a truth value counts as one. -/
def integer? : Json.Value → Option Int
  | .integer number => some number
  | .bool value => some (if value then 1 else 0)
  | _ => none

/-- The level that a number is equal to, if it is one with a name of its own. -/
def namedNumber? (number : Float) : Option Int :=
  (named.map Prod.snd).find? fun level => Float.ofInt level == number

/-- Whether a value can be looked up among the levels. -/
def isSought : Json.Value → Bool
  | .array _ | .object _ => false
  | _ => true

/-- The name under which a value is written that stands in place of a level.  The name of a level
has no name itself. -/
def textOf (value : Json.Value) : Except Trouble CodeString :=
  let shown := CodePoint.ofText "level " ++ (Json.Shown.plain value).map CodePoint.lower
  match value with
  | .integer level => .ok (text level)
  | .bool false => .ok (text 0)
  | .real number =>
      .ok (((namedNumber? number).map fun level => CodePoint.ofText (text level)).getD shown)
  | .string _ =>
      if named.any fun level => Json.Shown.plain value = level.1 then
        .error .partMissing
      else .ok shown
  | _ => .ok shown

example : (ofName "warn").toOption = some 30 ∧ (ofName "ınfo").toOption = some 20 := by
  decide +kernel

end FederatedLogin.Logging.Level

import FederatedLogin.Logging.Hierarchy
import FederatedLogin.Logging.Record
import FederatedLogin.Logging.Secrets

/-!
# What is written to the log

`Loggers.configure` sets up the log of a process.  The libraries that report every statement or
request are quietened, and those that report on the database write summaries of their own.

The events of this program are fields under names: those bound to the logger, those of the event,
then the event itself and its origin.  Secrets are masked before a line is made.  A line also has
its time, which is set when it is written and is not part of what is modelled here.

Before the log is set up, events are shown on a terminal.  Nothing of that is modelled but what can
go wrong.
-/

namespace FederatedLogin.Logging

open FederatedLogin.Json FederatedLogin.Text

/-- An event of this program on its way to a logger. -/
structure OwnEvent where
  logger : String
  level : Int
  template : String
  values : List Value
  /-- Fields bound to the logger. -/
  bound : List (String × Value)
  fields : List (String × Value)

/-- A field set among others, in place of one of its name. -/
def withField (fields : List (String × Value)) (name : String) (value : Value) :
    List (String × Value) :=
  match fields with
  | [] => [(name, value)]
  | (other, old) :: rest =>
      if other = name then (name, value) :: rest else (other, old) :: withField rest name value

/-- Fields set among others, one after the other. -/
def withFields (fields added : List (String × Value)) : List (String × Value) :=
  added.foldl (fun fields field => withField fields field.1 field.2) fields

/-- The fields that are taken out of an event: its time is set anew, the next two are requests for
what is not there, and the last two belong to the log itself. -/
def transientNames : List String :=
  ["timestamp", "stack_info", "exc_info", "_record", "_from_structlog"]

/-- The name of the field that holds the values of a template. -/
def valuesName : String :=
  "positional_args"

namespace OwnEvent

/-- Whether fields have names that a call needs for itself. -/
def clashes (event : OwnEvent) : Bool :=
  event.bound.any (·.1 == "self") ||
    event.fields.any fun field => field.1 == "self" || field.1 == "event"

/-- Whether a field has the name under which a call is passed on. -/
def clashesOnTheWay (event : OwnEvent) : Bool :=
  event.fields.any (·.1 == "method_name")

/-- The fields of an event, those of a call in place of those bound to the logger. -/
def given (event : OwnEvent) : List (String × Value) :=
  withFields event.bound event.fields

/-- The supply that a field with values makes.  A text or an array is counted first, and an object
as well, which has no entry under the number that is then asked for. -/
def supplyOf : Value → Except Trouble Supply
  | .string points => .ok (Supply.ofValue (.string points))
  | .array [.object members] =>
      .ok (Supply.ofValue (if members.isEmpty then .array [.object []] else .object members))
  | .array items => .ok (Supply.ofValue (.array items))
  | .object members =>
      if (Value.entries members).length = 1 then .error .entryMissing
      else .ok (Supply.ofValue (.object members))
  | _ => .error .typeMismatch

/-- The text of an event and its fields, without the one for the values once that has been used.
The values of a call count before those of the field. -/
def filled (event : OwnEvent) : Except Trouble (List CodePoint × List (String × Value)) :=
  let others := event.given.filter (·.1 != valuesName)
  match event.values, event.given.lookup valuesName with
  | [], none | [], some .null => .ok (CodePoint.ofText event.template, event.given)
  | [], some values =>
      if values.isVoid then .ok (CodePoint.ofText event.template, others)
      else do
        let text ← Template.filled event.template (← supplyOf values)
        return (text, others)
  | values, _ => do return (← Template.message event.template values, others)

/-- The fields of an event as they are written, with secrets masked. -/
def content (event : OwnEvent) : Except Trouble (List (String × Value)) := do
  match event.given.lookup "_record" with
  | none | some .null => pure ()
  | some _ => throw .partMissing
  let (text, fields) ← event.filled
  let all := withFields fields
    [("event", .string text), ("logger", .text (Loggers.shownName event.logger)),
     ("level", .text (Level.text event.level))]
  return (maskSecrets (.text mask) all).filter fun field => !transientNames.contains field.1

/-- What an event writes under the name of a secret is the mask. -/
theorem eq_mask_of_mem_content {event : OwnEvent} {content : List (String × Value)}
    (made : event.content = .ok content) {name : String} {value : Value}
    (isSecret : name ∈ secretNames) (found : (name, value) ∈ content) : value = .text mask := by
  have masked (text : List CodePoint) (fields : List (String × Value))
      (same : (maskSecrets (.text mask) (withFields fields
        [("event", .string text), ("logger", .text (Loggers.shownName event.logger)),
         ("level", .text (Level.text event.level))])).filter
          (fun field => !transientNames.contains field.1) = content) : value = .text mask := by
    rw [← same] at found
    exact eq_mask_of_mem_maskSecrets isSecret ((List.mem_filter.mp found).1)
  rw [OwnEvent.content] at made
  cases filling : event.filled with
  | error trouble =>
      rw [filling] at made
      split at made <;> cases made
  | ok filled =>
      rw [filling] at made
      split at made
      · exact masked _ _ (Except.ok.inj made)
      · exact masked _ _ (Except.ok.inj made)
      · cases made

/-- Whether a field that is shown below an event is fit for it. -/
def isShowable (event : OwnEvent) (name : String) : Bool :=
  match event.given.lookup name with
  | none | some .null | some (.string _) => true
  | some _ => false

/-- What can go wrong with an event that is shown without a log: its text cannot be filled, or what
belongs below it is no text.  A stack that is asked for takes the place of the one given. -/
def checkShown (event : OwnEvent) : Except Trouble Unit := do
  let _ ← Template.message event.template event.values
  let asksForStack := (event.given.lookup "stack_info").any fun value => !value.isVoid
  if event.clashesOnTheWay || !(event.isShowable "stack" || asksForStack) ||
      !event.isShowable "exception" then
    throw .typeMismatch

end OwnEvent

namespace Loggers

/-- What is set for the loggers of libraries. -/
def librarySettings : List (String × LoggerSettings) :=
  [("sqlalchemy.engine", ⟨Level.warning, false, some .summary⟩),
   ("sqlalchemy.pool", ⟨Level.warning, false, some .summary⟩),
   ("httpx", ⟨Level.warning, true, none⟩),
   ("httpcore", ⟨Level.warning, true, none⟩)]

/-- Sets up the log with the level that is asked for by name.  The handler of the root is there even
if the name is refused; all else is then as it was. -/
def configure (loggers : Loggers) (levelName : Option String) : Except Trouble Unit × Loggers :=
  let handled := { loggers with rootHandler := some .fields }
  match Level.ofSetting levelName with
  | .error trouble => (.error trouble, handled)
  | .ok level =>
      (.ok (), { handled with
        rootLevel := level, settings := librarySettings ++ presetSettings, takesEvents := true })

/-- The line that a handler makes of the fields of an event. -/
def lineOf (event : OwnEvent) (content : List (String × Value)) : Format → Value
  | .fields => .record content
  | .summary =>
      .record [("event", .text (Shown.nested (.record content))),
        ("level", .text (Level.text event.level)), ("logger", .text event.logger)]

/-- The lines that an event makes.  Its text is only put together where it is taken. -/
def emit (loggers : Loggers) (event : OwnEvent) : Except Trouble (List Value) := do
  if event.clashes then throw .typeMismatch
  if !loggers.takesEvents then
    event.checkShown
    return []
  if event.clashesOnTheWay then throw .typeMismatch
  if !loggers.isEnabled event.logger event.level then return []
  let content ← event.content
  return (loggers.handlers event.logger).map (lineOf event content)

/-- An event makes no lines, or one for each handler, of its fields as they are written. -/
theorem lines_of_emit {loggers : Loggers} {event : OwnEvent} {lines : List Value}
    (written : loggers.emit event = .ok lines) :
    lines = [] ∨ ∃ content, event.content = .ok content ∧
      lines = (loggers.handlers event.logger).map (lineOf event content) := by
  simp only [emit, bind, Except.bind] at written
  cases clashes : event.clashes with
  | true =>
      rw [clashes] at written
      cases written
  | false =>
      cases takes : loggers.takesEvents with
      | false =>
          simp only [clashes, takes] at written
          cases shown : event.checkShown with
          | error trouble =>
              rw [shown] at written
              cases written
          | ok done =>
              rw [shown] at written
              cases written
              exact .inl rfl
      | true =>
          cases clashesLater : event.clashesOnTheWay with
          | true =>
              simp only [clashes, takes, clashesLater] at written
              cases written
          | false =>
              cases enabled : loggers.isEnabled event.logger event.level with
              | false =>
                  simp only [clashes, takes, clashesLater, enabled] at written
                  cases written
                  exact .inl rfl
              | true =>
                  simp only [clashes, takes, clashesLater, enabled] at written
                  cases made : event.content with
                  | error trouble =>
                      rw [made] at written
                      cases written
                  | ok content =>
                      rw [made] at written
                      cases written
                      exact .inr ⟨content, rfl, rfl⟩

/-- Every line that an event makes is made of fields that hold the mask under the names of secrets,
in whatever form a handler writes them. -/
theorem exists_content_of_mem_emit {loggers : Loggers} {event : OwnEvent} {lines : List Value}
    (written : loggers.emit event = .ok lines) {line : Value} (lineMem : line ∈ lines) :
    ∃ content format, line = lineOf event content format ∧
      ∀ name ∈ secretNames, ∀ value, (name, value) ∈ content → value = .text mask := by
  rcases lines_of_emit written with rfl | ⟨content, made, rfl⟩
  · cases lineMem
  · obtain ⟨format, _, rfl⟩ := List.mem_map.mp lineMem
    exact ⟨content, format, rfl,
      fun name isSecret value found => OwnEvent.eq_mask_of_mem_content made isSecret found⟩

/-- The lines that a record of another library makes; a template that cannot be filled makes
none.  The level has to be an integer. -/
def log (loggers : Loggers) (record : LogRecord) : Except Trouble (List Value) :=
  match Level.integer? record.level with
  | none => .error .typeMismatch
  | some level =>
      if loggers.isEnabled record.logger level then
        match record.content with
        | .error _ => .ok []
        | .ok content =>
            .ok ((loggers.handlers record.logger).map fun
              | .fields => .record (content.take 1)
              | .summary => .record content)
      else .ok []

end Loggers

end FederatedLogin.Logging

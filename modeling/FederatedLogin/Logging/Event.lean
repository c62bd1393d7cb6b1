import FederatedLogin.Event
import FederatedLogin.Logging.Emission

/-!
# The events of this program as log lines

The level, the text and the particulars of an event become the level, the template and the fields
of what goes to a logger.  The text of an event holds no directives and takes no values.
-/

namespace FederatedLogin.Event

open FederatedLogin.Logging

/-- The level of an event as a number. -/
def levelNumber : EventLevel → Int
  | .debug => 10
  | .info => 20
  | .warning => 30
  | .error => 40

/-- The value of a field. -/
def fieldJson : FieldValue → Json.Value
  | .missing => .null
  | .flag value => .bool value
  | .integer value => .integer value
  | .text value => .string value
  | .seconds value => .real value
  | .nothing => .array []

/-- An event on its way to a logger. -/
def toOwnEvent (event : Event) (logger : String) : OwnEvent where
  logger := logger
  level := levelNumber event.level
  template := event.text
  values := []
  bound := []
  fields := event.fields.map fun (name, value) => (name, fieldJson value)

end FederatedLogin.Event

import FederatedLogin.Logging.Level

/-!
# The hierarchy of loggers

Loggers are named with dots, and every part of a name up to a dot is the name of an ancestor; the
root stands above them all.  A logger without a level of its own has that of its nearest ancestor
with one.  A record goes to the handlers along the way to the root, up to the first logger that
keeps its records.
-/

namespace FederatedLogin.Logging

/-- How a handler writes a record. -/
inductive Format where
  /-- An event of this program with all its fields, or the bare text of another library's record. -/
  | fields
  /-- The text with the level and the logger. -/
  | summary
  deriving DecidableEq, Repr

/-- What is set for a logger; level zero stands for none. -/
structure LoggerSettings where
  level : Int
  propagates : Bool
  handler : Option Format
  deriving DecidableEq, Repr

/-- What the database library sets for its own loggers when it is loaded. -/
def presetSettings : List (String × LoggerSettings) :=
  [("sqlalchemy", ⟨Level.warning, true, none⟩)]

/-- The loggers of a process. -/
structure Loggers where
  rootLevel : Int := Level.warning
  rootHandler : Option Format := none
  settings : List (String × LoggerSettings) := presetSettings
  /-- Whether the events of this program go to the loggers. -/
  takesEvents : Bool := false

namespace Loggers

/-- The names of the ancestors of a logger below the root, the farthest first; `before` stands in
reverse before the rest of the name. -/
def ancestors (before : List Char) : List Char → List String
  | [] => []
  | '.' :: rest =>
      if before.isEmpty then ancestors ('.' :: before) rest
      else String.ofList before.reverse :: ancestors ('.' :: before) rest
  | value :: rest => ancestors (value :: before) rest

/-- Whether a name is one of the root. -/
def isRootName (name : String) : Bool :=
  name == "" || name == "root"

/-- The name under which a logger writes. -/
def shownName (name : String) : String :=
  if isRootName name then "root" else name

/-- The names from a logger up to the root, which is not among them. -/
def lineage (name : String) : List String :=
  if isRootName name then [] else name :: (ancestors [] name.toList).reverse

/-- What is set along the way from a logger to the root. -/
def along (loggers : Loggers) (name : String) : List LoggerSettings :=
  (lineage name).filterMap fun ancestor => loggers.settings.lookup ancestor

/-- The level from which on a logger takes records. -/
def effectiveLevel (loggers : Loggers) (name : String) : Int :=
  (((loggers.along name).find? fun settings => settings.level != 0).map (·.level)).getD
    loggers.rootLevel

/-- Whether a logger takes records of a level; levels that are not positive are never taken. -/
def isEnabled (loggers : Loggers) (name : String) (level : Int) : Bool :=
  0 < level && loggers.effectiveLevel name ≤ level

/-- The handlers along the way to the root. -/
def handlersAlong (root : Option Format) : List LoggerSettings → List Format
  | [] => root.toList
  | settings :: rest =>
      settings.handler.toList ++ if settings.propagates then handlersAlong root rest else []

/-- The handlers that a record of a logger goes to. -/
def handlers (loggers : Loggers) (name : String) : List Format :=
  handlersAlong loggers.rootHandler (loggers.along name)

example : lineage "a.b.c" = ["a.b.c", "a.b", "a"] := by decide +kernel
example : lineage ".a..b" = [".a..b", ".a.", ".a"] := by decide +kernel

end Loggers

end FederatedLogin.Logging

import FederatedLogin.Failure
import FederatedLogin.Json.Shown

/-!
# Failures of the system

A failure that the operating system reports has a number and a wording, and may have the names of
one or two files; a value between the names means nothing here.  The number tells the kind of the
failure, unless a narrower kind is given than that of all these failures.

A call that would have to wait can have a count of characters in place of the first name.
-/

namespace FederatedLogin.SystemFailure

open FederatedLogin.Json FederatedLogin.Text

/-- The kind of all failures of the system. -/
def generalKind : String :=
  "OSError"

/-- The kind of failures of calls that would have to wait. -/
def waitingKind : String :=
  "BlockingIOError"

/-- The numbers that tell a narrower kind. -/
def numberedKinds : List (Int × String) :=
  [(1, "PermissionError"), (2, "FileNotFoundError"), (3, "ProcessLookupError"),
   (4, "InterruptedError"), (10, "ChildProcessError"), (11, waitingKind), (13, "PermissionError"),
   (17, "FileExistsError"), (20, "NotADirectoryError"), (21, "IsADirectoryError"),
   (32, "BrokenPipeError"), (103, "ConnectionAbortedError"), (104, "ConnectionResetError"),
   (108, "BrokenPipeError"), (110, "TimeoutError"), (111, "ConnectionRefusedError"),
   (114, waitingKind), (115, waitingKind)]

/-- The kind that a name stands for; the kind of all failures has several names. -/
def kindNamed (name : String) : String :=
  if ["IOError", "EnvironmentError"].contains name then generalKind else name

/-- Whether a kind is one of failures of the system. -/
def isKind (kind : String) : Bool :=
  kind == generalKind || kind == "ConnectionError" || numberedKinds.any (·.2 == kind)

/-- The integer that a value stands for. -/
def number? : Value → Option Int
  | .integer number => some number
  | .bool value => some (if value then 1 else 0)
  | _ => none

/-- The kind of a failure with a number. -/
def narrowed (kind : String) (number : Value) : String :=
  if kind = generalKind then
    ((number? number).bind fun number => numberedKinds.lookup number).getD kind
  else kind

/-- How a file is named in a wording: a missing name is not shown, and neither is a count. -/
def shownName (kind : String) (name : Value) : Except Trouble (Option String) :=
  match name with
  | .null => .ok none
  | .integer count =>
      if kind ≠ waitingKind then .ok (some (Shown.nested name))
      else if -0x8000000000000000 ≤ count ∧ count < 0x8000000000000000 then .ok none
      else .error .malformedValue
  | .bool _ => .ok (if kind = waitingKind then none else some (Shown.nested name))
  | .real _ => if kind = waitingKind then .error .typeMismatch else .ok (some (Shown.nested name))
  | name => .ok (some (Shown.nested name))

/-- The wording of a failure with a number, a wording, and names. -/
def wording (number told : Value) (first second : Option String) : CodeString :=
  let names : String :=
    match first, second with
    | none, _ => ""
    | some first, none => ": " ++ first
    | some first, some second => ": " ++ first ++ " -> " ++ second
  CodePoint.ofText "[Errno " ++ Shown.plain number ++ CodePoint.ofText "] " ++
    Shown.plain told ++ CodePoint.ofText names

/-- The kind and the wording of a failure of the system with values that describe it.  Only two to
five values are a number, a wording, and names. -/
def ofValues (kind : String) (values : List Value) : Except Trouble (String × CodeString) :=
  match values with
  | number :: told :: others =>
      if others.length ≤ 3 then do
        let kind := narrowed kind number
        let first ← shownName kind (others.getD 0 .null)
        let second := match others.getD 2 .null with
          | .null => none
          | name => some (Shown.nested name)
        return (kind, wording number told first second)
      else return (kind, Shown.together values)
  | values => return (kind, Shown.together values)

end FederatedLogin.SystemFailure

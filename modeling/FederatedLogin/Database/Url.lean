import FederatedLogin.Database.Query
import FederatedLogin.Number.Written
import FederatedLogin.Text.Word

/-!
# Database addresses

A database address starts with the name of a dialect, and of a driver after a plus sign, and has
only optional parts behind that: a user with a password, a host with a port, the name of the
database, and a query.  Whatever follows the last part that fits is not looked at.

A text without the name is refused.  Where there is a port, it has to be an integer, which is a
refusal of another kind.  The user, the password and the name of the database are percent-encoded.
-/

namespace FederatedLogin

open FederatedLogin.Text FederatedLogin.Number

/-- A database address. -/
structure DatabaseUrl where
  driver : List Char
  username : Option String := none
  password : Option String := none
  host : Option (List Char) := none
  port : Option Int := none
  database : Option String := none
  query : Query := []
  deriving DecidableEq, Repr

namespace DatabaseUrl

/-- Why a text is not a database address. -/
inductive Problem where
  | unrecognised
  | malformedPort
  deriving DecidableEq, Repr

/-- Whether a character belongs to the name of a dialect and a driver. -/
def isDriverChar (value : Char) : Bool :=
  isWord value || value == '+'

/-- The name in front of the colon and the two slashes, and what follows them. -/
def splitDriver? (source : List Char) : Option (List Char × List Char) :=
  let driver := source.takeWhile isDriverChar
  match driver, source.dropWhile isDriverChar with
  | _ :: _, ':' :: '/' :: '/' :: rest => some (driver, rest)
  | _, _ => none

/-- The user, the password and what follows their at-sign.  A password may hold anything but an
at-sign; a user without one may not hold a colon or a slash. -/
def splitUser (source : List Char) : Option (List Char) × Option (List Char) × List Char :=
  let run := source.takeWhile fun value => value != ':' && value != '/'
  let afterRun := source.drop run.length
  match afterRun with
  | ':' :: rest =>
      if rest.contains '@' then
        (some run, some (rest.takeWhile (· != '@')), (rest.dropWhile (· != '@')).drop 1)
      else
        withoutPassword run afterRun
  | _ => withoutPassword run afterRun
where
  /-- The user of an address that has no password. -/
  withoutPassword (run afterRun : List Char) :
      Option (List Char) × Option (List Char) × List Char :=
    match splitLast? '@' run with
    | some (username, rest) => (some username, none, rest ++ afterRun)
    | none => (none, none, run ++ afterRun)

/-- A host in brackets, which must not be empty, and what follows it. -/
def splitLiteral? : List Char → Option (List Char × List Char)
  | '[' :: rest =>
      let run := rest.takeWhile fun value => value != '/' && value != '?'
      match splitLast? ']' run with
      | some (literal, afterLiteral) =>
          if literal.isEmpty then none
          else some (literal, afterLiteral ++ rest.drop run.length)
      | none => none
  | _ => none

/-- A host and what follows it. -/
def splitHost (source : List Char) : Option (List Char) × List Char :=
  match splitLiteral? source with
  | some (literal, rest) => (some literal, rest)
  | none =>
      let name := source.takeWhile fun value => value != '/' && value != ':' && value != '?'
      if name.isEmpty then (none, source) else (some name, source.drop name.length)

/-- A port as it is written and what follows it. -/
def splitPort : List Char → Option (List Char) × List Char
  | ':' :: rest =>
      let port := rest.takeWhile fun value => value != '/' && value != '?'
      (some port, rest.drop port.length)
  | source => (none, source)

/-- The name of a database, as far as the query, and what follows it. -/
def splitDatabase : List Char → Option (List Char) × List Char
  | '/' :: rest => (some (rest.takeWhile (· != '?')), rest.dropWhile (· != '?'))
  | source => (none, source)

/-- The query, which ends with its line. -/
def queryIn : List Char → Query
  | '?' :: rest => Query.ofChars (rest.takeWhile (· != '\n'))
  | _ => []

/-- The port that is written, if one is. -/
def portOf : Option (List Char) → Except Problem (Option Int)
  | none => .ok none
  | some written =>
      match Written.integer? (String.ofList written) with
      | some port => .ok (some port)
      | none => .error .malformedPort

/-- The database address that a text writes. -/
def ofText (source : String) : Except Problem DatabaseUrl :=
  match splitDriver? source.toList with
  | none => .error .unrecognised
  | some (driver, rest) => do
      let (username, password, rest) := splitUser rest
      let (host, rest) := splitHost rest
      let (port, rest) := splitPort rest
      let (database, rest) := splitDatabase rest
      let port ← portOf port
      return {
        driver, host, port
        username := username.map Percent.decode
        password := password.map Percent.decode
        database := database.map Percent.decode
        query := queryIn rest }

/-- The problem with a text, if it has one. -/
def problem? (source : String) : Option Problem :=
  match ofText source with
  | .ok _ => none
  | .error problem => some problem

example : (ofText "x://h:80?y=1").toOption.bind (·.port) = some 80 := by decide +kernel
example : problem? "x.y://h" = some .unrecognised := by decide +kernel
example : problem? "x://h:/d" = some .malformedPort := by decide +kernel
example : problem? "x://a:1@b:c@d:2/e" = some .malformedPort := by decide +kernel
example : problem? "x://u:@:9/d" = none := by decide +kernel
example : (ofText "x:///d%2fe?a=%31").toOption.map (fun url => (url.database, url.query)) =
    some (some "d/e", [("a", .single "1")]) := by
  decide +kernel

end DatabaseUrl

end FederatedLogin

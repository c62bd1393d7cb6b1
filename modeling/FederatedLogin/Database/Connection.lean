import FederatedLogin.Database.Url
import FederatedLogin.Platform
import FederatedLogin.Text.Blank

/-!
# Connections

An address says which file a database is kept in and how it is connected to.  `Connection.ofUrl`
reads both off the address; nothing is opened yet.

With the parameter `uri`, the file may be named by a URI, and the parameters that are not about the
connection are options of that URI.
-/

namespace FederatedLogin

open FederatedLogin.Number FederatedLogin.Text

/-- How a database is connected to. -/
structure Connection where
  /-- The file as it is named, if it may be named by a URI; else a path in its plainest wording,
  or the name of the memory. -/
  name : String
  isUri : Bool := false
  /-- The level of isolation, where one is set that means nothing. -/
  isolation : Option String := none
  /-- Which types are detected, as a row of bits. -/
  detection : Int := 0
  /-- How many statements are kept ready. -/
  cachedStatements : Int := 128
  deriving DecidableEq, Repr

namespace Connection

/-- The driver that can be used. -/
def usableDriver : List Char :=
  "sqlite+aiosqlite".toList

/-- The drivers that look at an address as the usable one does, but cannot be used. -/
def relatedDrivers : List (List Char) :=
  ["sqlite".toList, "sqlite+base".toList, "sqlite+pysqlite".toList]

/-- The name of a database in memory. -/
def memoryName : String :=
  ":memory:"

/-- The parameters that name additions to the driver. -/
def additionNames : List String :=
  ["plugin", "plugins"]

/-- The parameters of the connection itself. -/
def parameterNames : List String :=
  ["uri", "timeout", "isolation_level", "detect_types", "check_same_thread", "cached_statements"]

/-- The words for a truth value. -/
def truthWords : List (String × Bool) :=
  [("true", true), ("yes", true), ("on", true), ("y", true), ("t", true), ("1", true),
   ("false", false), ("no", false), ("off", false), ("n", false), ("f", false), ("0", false)]

/-- The failure of a text that does not write what it has to. -/
def malformed {α : Type} : Option α → Except Failure α
  | some value => .ok value
  | none => .error (.outside .malformedValue)

/-- The truth value of a parameter, if it is there.  Several values count as true. -/
def truth? (query : Query) (name : String) : Except Failure (Option Bool) :=
  match query.get? name with
  | none => .ok none
  | some (.several _) => .ok (some true)
  | some (.single word) => do
      let word := String.ofList ((strip word).toList.map Char.toLower)
      return some (← malformed (truthWords.lookup word))

/-- The number of a parameter, if it is there.  Several values are no number. -/
def number? {α : Type} (read : String → Option α) (query : Query) (name : String) :
    Except Failure (Option α) :=
  match query.get? name with
  | none => .ok none
  | some (.several _) => .error (.outside .typeMismatch)
  | some (.single written) => do return some (← malformed (read written))

/-- The level of isolation of a parameter.  A single value is passed over. -/
def isolation? (query : Query) (name : String) : Option String :=
  match query.get? name with
  | some (.several values) => some (Parameter.several values).text
  | _ => none

/-- The options of a URI that a query holds, in the order of their names. -/
def optionsIn (query : Query) : List (String × Parameter) :=
  (query.filter fun (name, _) => !(additionNames ++ parameterNames).contains name).mergeSort
    fun first second => first.1 ≤ second.1

/-- The name of a file with the options behind it. -/
def nameWith (name : String) : List (String × Parameter) → String
  | [] => name
  | options =>
      name ++ "?" ++ "&".intercalate (options.map fun (name, value) => name ++ "=" ++ value.text)

/-- The file that may be named by a URI.  Where no file is named, options cannot be put behind its
name. -/
def uriName (url : DatabaseUrl) : Except Failure String :=
  match url.database, optionsIn url.query with
  | some name, options => .ok (nameWith name options)
  | none, [] => .ok "None"
  | none, _ => .error (.outside .typeMismatch)

/-- The file that a path names; an empty path names the memory. -/
def pathName (url : DatabaseUrl) : String :=
  match url.database with
  | none | some "" => memoryName
  | some path => path

/-- Reads an address for a driver that knows databases in files. -/
def ofFileUrl (url : DatabaseUrl) : Except Failure Connection := do
  let isUri ← truth? url.query "uri"
  let _ ← number? Written.real? url.query "timeout"
  let detection ← number? Written.integer? url.query "detect_types"
  let _ ← truth? url.query "check_same_thread"
  let cachedStatements ← number? Written.integer? url.query "cached_statements"
  let name ← if isUri.getD false then uriName url else .ok (pathName url)
  return {
    name, isUri := isUri.getD false
    isolation := isolation? url.query "isolation_level"
    detection := detection.getD 0
    cachedStatements := cachedStatements.getD 128 }

/-- Whether an address names a user, a password, a host or a port, which a file does not have. -/
def isRemote (url : DatabaseUrl) : Bool :=
  !(url.username.getD "").isEmpty || !(url.password.getD "").isEmpty || url.host.isSome ||
    url.port.getD 0 != 0

/-- What leaves the search for a driver that is not known, by its name. -/
def searchFailure [Platform] (driver : List Char) : Failure :=
  match Platform.driverTrouble? driver with
  | some trouble => .outside trouble
  | none => .configuration .databaseUnusable

/-- The connection that an address asks for.  There are no additions to the driver, so an address
that asks for one cannot be used; the name of a driver has at most one plus sign. -/
def ofUrl [Platform] (url : DatabaseUrl) : Except Failure Connection :=
  if (url.query.get? "plugin").isSome then .error (.configuration .databaseUnusable)
  else if 1 < url.driver.count '+' then .error (.outside .malformedValue)
  else if !(usableDriver :: relatedDrivers).contains url.driver then
    .error (searchFailure url.driver)
  else if isRemote url then .error (.configuration .databaseUnusable)
  else do
    let connection ← ofFileUrl url
    if url.driver = usableDriver then return connection
    else .error (.configuration .databaseUnusable)

end Connection

end FederatedLogin

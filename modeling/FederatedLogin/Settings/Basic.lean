import FederatedLogin.Event
import FederatedLogin.Database.Connection

/-!
# Settings

The settings are read from the environment once, at the start.  Each variable has its own reader;
`Settings.load` asks them in a fixed order and stops at the first that fails.
-/

namespace FederatedLogin

open FederatedLogin.Text FederatedLogin.Number

/-- The variables of a process with their values. -/
abbrev Environment := List (String × String)

/-- The settings of a resolver. -/
structure Settings where
  verifyUrl : String
  bundlePath : Option String
  timeout : Float
  databaseUrl : Option String

namespace Environment

/-- The value of a variable. -/
def get? (environment : Environment) (name : String) : Option String :=
  environment.lookup name

/-- The value of a variable without the blanks around it; what is blank counts as not set. -/
def stripped? (environment : Environment) (name : String) : Option String :=
  let value := strip ((environment.get? name).getD "")
  if value = "" then none else some value

end Environment

namespace Settings

/-- The timeout in seconds where none is set. -/
def defaultTimeout : Float :=
  10.0

/-- The base address of the verification service. -/
def verifyUrl? (environment : Environment) : Except Failure String :=
  match environment.stripped? "FEDERATION_VERIFY_URL" with
  | some url => .ok url
  | none => .error (.configuration .verifyUrlMissing)

/-- The path of a bundle of trusted certificates. -/
def bundlePath? (environment : Environment) : Option String :=
  environment.stripped? "FEDERATION_CA_BUNDLE_PATH"

/-- The timeout that a text writes. -/
def timeoutOf (written : String) : Except Failure Float :=
  match Written.real? written with
  | none => .error (.configuration (.timeoutNotNumber written))
  | some seconds =>
      if seconds ≤ 0 then .error (.configuration .timeoutNotPositive) else .ok seconds

/-- The timeout in seconds.  A blank value counts as not set, any other has to be a number as it
stands. -/
def timeout? (environment : Environment) : Except Failure Float :=
  match environment.get? "FEDERATION_HTTP_TIMEOUT_SECONDS" with
  | none => .ok defaultTimeout
  | some written => if strip written = "" then .ok defaultTimeout else timeoutOf written

/-- The failure that a problem with a database address is. -/
def databaseFailure (fault : ConfigurationFault) : DatabaseUrl.Problem → Failure
  | .unrecognised => .configuration fault
  | .malformedPort => .outside .malformedValue

/-- The address of the database. -/
def databaseUrl? (environment : Environment) : Except Failure (Option String) :=
  match environment.stripped? "FEDERATION_DATABASE_URL" with
  | none => .ok none
  | some written =>
      match DatabaseUrl.ofText written with
      | .ok _ => .ok (some written)
      | .error problem => .error (databaseFailure .databaseUrlInvalid problem)

/-- The settings that an environment makes. -/
def load (environment : Environment) : Except Failure Settings := do
  let verifyUrl ← verifyUrl? environment
  let timeout ← timeout? environment
  let databaseUrl ← databaseUrl? environment
  return { verifyUrl, bundlePath := bundlePath? environment, timeout, databaseUrl }

/-- What is logged about settings. -/
def loadedEvent (settings : Settings) : Event :=
  .settingsLoaded settings.bundlePath.isSome settings.timeout settings.databaseUrl.isSome

/-- The connection to the database at an address. -/
def connection [Platform] (written : String) : Except Failure Connection :=
  match DatabaseUrl.ofText written with
  | .error problem => .error (databaseFailure .databaseUnusable problem)
  | .ok url => Connection.ofUrl url

end Settings

end FederatedLogin

import FederatedLogin.Failure
import FederatedLogin.Identity

/-!
# Log events

Everything that is worth a line in the log, as a value with its particulars.  `Event.level`,
`Event.text` and `Event.fields` say how an event is written.  No event has room for a token or a
password.
-/

namespace FederatedLogin

open FederatedLogin.Text

/-- The importance of an event. -/
inductive EventLevel where
  | debug
  | info
  | warning
  | error
  deriving DecidableEq, Repr

/-- The value of a field of an event. -/
inductive FieldValue where
  | missing
  | flag (value : Bool)
  | integer (value : Int)
  | text (value : CodeString)
  | seconds (value : Float)
  /-- A list with nothing in it. -/
  | nothing

namespace FieldValue

/-- A text that may be missing. -/
def optionalText : Option CodeString → FieldValue
  | none => .missing
  | some value => .text value

/-- An identifier that may be missing. -/
def optionalId : Option Int → FieldValue
  | none => .missing
  | some value => .integer value

/-- A principal. -/
def principal : Principal → FieldValue
  | .named name => .text name
  | .unnamed => .nothing

end FieldValue

/-- A log event. -/
inductive Event where
  | settingsLoaded (bundleConfigured : Bool) (timeout : Float) (databaseConfigured : Bool)
  | systemCertificates
  | bundleMissing (path : String)
  | bundleAppended (path : String)
  | serviceSelected (url : String)
  | authenticating (principal : Principal)
  | serviceUnreachable (principal : Principal) (url message kind : String)
  | serviceFailed (principal : Principal) (status : Int) (response : String)
  | rejected (principal : Principal) (status : Int) (reason : Option CodeString)
  | responseUnreadable (principal : Principal) (detail : String)
  | responseRefused (principal : Principal) (fault : ProtocolFault)
  | tokenVerified (principal : Principal) (uid username : CodeString) (groups : Nat)
  | userStored (id : Int)
  | userUpdated (id : Option Int)
  | userCreated (principal : Principal) (uid : CodeString) (id : Option Int)
      (username : CodeString)
  | userResolved (principal : Principal) (uid : CodeString) (id : Option Int)
  | userRenamed (principal : Principal) (uid : CodeString) (id : Option Int)
      (previous username : CodeString)
  | storeFailed (principal : Principal) (uid : CodeString) (failure : Failure)
  | tokenMissing (principal : Principal)
  | configurationInvalid (failure : Failure)
  | authenticationFailed (principal : Principal) (failure : Failure)
  | authenticatorRegistered (name : String)
  | authenticatorKnown (name : String)

namespace Event

/-- The importance of an event. -/
def level : Event → EventLevel
  | .settingsLoaded .. | .systemCertificates | .bundleAppended _ | .authenticating _
  | .tokenVerified .. | .userStored _ | .userUpdated _ => .debug
  | .serviceSelected _ | .userCreated .. | .userResolved .. | .userRenamed ..
  | .authenticatorRegistered _ | .authenticatorKnown _ => .info
  | .bundleMissing _ | .rejected .. => .warning
  | .serviceUnreachable .. | .serviceFailed .. | .responseUnreadable .. | .responseRefused ..
  | .storeFailed .. | .tokenMissing _ | .configurationInvalid _ | .authenticationFailed .. => .error

/-- The text of an event. -/
def text : Event → String
  | .settingsLoaded .. => "Federation settings loaded"
  | .systemCertificates => "Using system CA certificate store for TLS verification"
  | .bundleMissing _ => "CA bundle missing or empty, using system CA store only"
  | .bundleAppended _ => "Appended CA bundle to system trust store"
  | .serviceSelected _ => "Token federation verification service"
  | .authenticating _ => "Authenticating federated user"
  | .serviceUnreachable .. => "Verification service unreachable"
  | .serviceFailed .. => "Verification service error"
  | .rejected .. => "Authentication rejected"
  | .responseUnreadable .. => "Verification response is not valid JSON"
  | .responseRefused .. => "Verification response rejected"
  | .tokenVerified .. => "Token verified"
  | .userStored _ => "User stored"
  | .userUpdated _ => "User updated"
  | .userCreated .. => "Federated user created"
  | .userResolved .. => "Federated user resolved"
  | .userRenamed .. => "Federated user renamed"
  | .storeFailed .. => "User store operation failed"
  | .tokenMissing _ => "No token supplied on stdin"
  | .configurationInvalid _ => "Invalid configuration"
  | .authenticationFailed .. => "Authentication failed"
  | .authenticatorRegistered _ => "Authenticator registered"
  | .authenticatorKnown _ => "Authenticator already registered"

/-- The particulars of an event under their names. -/
def fields : Event → List (String × FieldValue)
  | .settingsLoaded bundleConfigured timeout databaseConfigured =>
      [("ca_bundle_configured", .flag bundleConfigured), ("http_timeout_seconds", .seconds timeout),
       ("database_configured", .flag databaseConfigured)]
  | .systemCertificates => []
  | .bundleMissing path | .bundleAppended path => [("path", .text path)]
  | .serviceSelected url => [("url", .text url)]
  | .authenticating principal => [("principal", .principal principal)]
  | .serviceUnreachable principal url message kind =>
      [("principal", .principal principal), ("url", .text url), ("error", .text message),
       ("error_type", .text kind)]
  | .serviceFailed principal status response =>
      [("principal", .principal principal), ("status", .integer status),
       ("response", .text response)]
  | .rejected principal status reason =>
      [("principal", .principal principal), ("status", .integer status),
       ("reason", .optionalText reason)]
  | .responseUnreadable principal detail =>
      [("principal", .principal principal), ("error", .text detail)]
  | .responseRefused principal fault =>
      [("principal", .principal principal), ("error", .text fault.message)]
  | .tokenVerified principal uid username groups =>
      [("principal", .principal principal), ("uid", .text uid), ("username", .text username),
       ("groups_count", .integer groups)]
  | .userStored id => [("user_id", .integer id)]
  | .userUpdated id => [("user_id", .optionalId id)]
  | .userCreated principal uid id username =>
      [("principal", .principal principal), ("uid", .text uid), ("user_id", .optionalId id),
       ("username", .text username)]
  | .userResolved principal uid id =>
      [("principal", .principal principal), ("uid", .text uid), ("user_id", .optionalId id)]
  | .userRenamed principal uid id previous username =>
      [("principal", .principal principal), ("uid", .text uid), ("user_id", .optionalId id),
       ("previous_username", .text previous), ("username", .text username)]
  | .storeFailed principal uid failure =>
      [("principal", .principal principal), ("uid", .text uid), ("error", .text failure.message),
       ("error_type", .text failure.kind)]
  | .tokenMissing principal => [("principal", .principal principal)]
  | .configurationInvalid failure => [("error", .text failure.message)]
  | .authenticationFailed principal failure =>
      [("principal", .principal principal), ("error", .text failure.message),
       ("error_type", .text failure.kind)]
  | .authenticatorRegistered name | .authenticatorKnown name => [("name", .text name)]

end Event

end FederatedLogin

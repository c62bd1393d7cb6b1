import FederatedLogin.Text.Quoted

/-!
# Failures

Every way in which a login or a startup can fail, as a cause with its particulars.
`Failure.message` words each of them and `Failure.kinds` says what it is, from the narrowest kind
to the widest.

A failure outside the family is trouble of a collaborator.  Where the collaborator says what it is,
its own words are kept.
-/

namespace FederatedLogin

open FederatedLogin.Text

/-- What is wrong with the startup configuration. -/
inductive ConfigurationFault where
  | verifyUrlMissing
  | timeoutNotNumber (written : String)
  | timeoutNotPositive
  | databaseUrlInvalid
  | verifyUrlInvalid (written : String)
  | verifyUrlNotAbsolute (written : String)
  | bundleUnusable (path : String)
  | databaseUnusable
  | stated (message : String)
  deriving DecidableEq, Repr

/-- Why the verification service was not reached. -/
inductive TransportFault where
  | unreachable (kind : String)
  | stated (message : String)
  deriving DecidableEq, Repr

/-- How a response departs from the wire schema. -/
inductive ProtocolFault where
  | notJson
  | bodyNotObject
  | statusMissing
  | authenticatedNotBoolean
  | errorNotString
  | memberNotString (name : String)
  | userMissing
  | uidMissing
  | usernameNotString
  | groupsNotStrings
  | extraNotStringLists
  | stated (message : String)
  deriving DecidableEq, Repr

/-- What went wrong in a user store. -/
inductive StorageFault where
  | lookupFailed
  | createFailed
  | updateFailed
  | schemaFailed
  | noSuchUser (id : Option Int)
  | keyImmutable
  | stated (message : String)
  deriving DecidableEq, Repr

/-- What is wrong with the name of a host. -/
inductive HostFault where
  | malformed
  | letterRefused
  | companyRefused
  | directionsMixed
  deriving DecidableEq, Repr

/-- Trouble outside the family. -/
inductive Trouble where
  /-- A text that is no address was to be requested. -/
  | invalidAddress
  /-- An address that names no host was requested. -/
  | relativeAddress
  /-- The name of a host stands for characters that a name cannot have. -/
  | hostRefused (fault : HostFault)
  /-- A number does not fit the place it is meant for. -/
  | integerTooLarge
  /-- A text is not what it has to be. -/
  | malformedValue
  /-- A value is of a type that does not fit its use. -/
  | typeMismatch
  /-- An index names an entry that is not there. -/
  | entryMissing
  /-- A value lacks a part that is asked of it. -/
  | partMissing
  /-- A message template has a directive that means nothing. -/
  | malformedTemplate
  /-- A text with a surrogate in it was to be encoded. -/
  | unencodable (source : CodeString)
  /-- A text does not fit into memory. -/
  | textTooLong
  /-- A log level is asked for by a name that belongs to something else. -/
  | unknownLevel
  /-- A time lies outside the years of the calendar. -/
  | timeOutOfRange
  /-- A time lies outside the years that the clock can hold. -/
  | timeUnrepresentable
  /-- The times of a stored user are not read in the form in which they are kept. -/
  | timesUnreadable
  /-- A name is longer than any name of a file can be. -/
  | nameTooLong
  /-- A collaborator says what went wrong. -/
  | reported (kind : String) (message : String)
  deriving DecidableEq, Repr

/-- A failure. -/
inductive Failure where
  | general (message : String)
  | configuration (fault : ConfigurationFault)
  | transport (fault : TransportFault)
  | serviceUnavailable (status : Int) (body : String)
  | protocol (fault : ProtocolFault)
  | unauthenticated (reason : Option CodeString)
  | storage (fault : StorageFault)
  | duplicateKey (field : String) (value : CodeString)
  | outside (trouble : Trouble)
  deriving DecidableEq, Repr

namespace ConfigurationFault

/-- The wording of a configuration fault. -/
def message : ConfigurationFault → String
  | .verifyUrlMissing => "FEDERATION_VERIFY_URL is not set"
  | .timeoutNotNumber written =>
      "FEDERATION_HTTP_TIMEOUT_SECONDS is not a number: " ++ quoted written
  | .timeoutNotPositive => "FEDERATION_HTTP_TIMEOUT_SECONDS must be positive"
  | .databaseUrlInvalid => "FEDERATION_DATABASE_URL is not a valid database URL"
  | .verifyUrlInvalid written => "invalid verification URL: " ++ quoted written
  | .verifyUrlNotAbsolute written =>
      "verification URL must be an absolute http(s) URL: " ++ quoted written
  | .bundleUnusable path => "cannot load CA bundle " ++ path ++ ": no certificate found"
  | .databaseUnusable => "cannot open database: no usable driver"
  | .stated message => message

end ConfigurationFault

namespace TransportFault

/-- The wording of a transport fault. -/
def message : TransportFault → String
  | .unreachable kind => "cannot reach verification service: " ++ kind
  | .stated message => message

end TransportFault

namespace ProtocolFault

/-- The wording of a protocol fault. -/
def message : ProtocolFault → String
  | .notJson => "verification response is not valid JSON"
  | .bodyNotObject => "response body is not a JSON object"
  | .statusMissing => "response has no status object"
  | .authenticatedNotBoolean => "status.authenticated is not a boolean"
  | .errorNotString => "status.error is not a string"
  | .memberNotString name => name ++ " is not a string"
  | .userMissing => "authenticated response has no user object"
  | .uidMissing => "authenticated user has no uid"
  | .usernameNotString => "user.username is not a string"
  | .groupsNotStrings => "user.groups is not a list of strings"
  | .extraNotStringLists => "user.extra is not a mapping of string lists"
  | .stated message => message

end ProtocolFault

namespace StorageFault

/-- How an identifier that may be missing is shown. -/
def shownId : Option Int → String
  | none => "None"
  | some id => toString id

/-- The wording of a storage fault. -/
def message : StorageFault → String
  | .lookupFailed => "lookup failed: no such table: federated_users"
  | .createFailed => "create failed: no such table: federated_users"
  | .updateFailed => "update failed: no such table: federated_users"
  | .schemaFailed => "schema creation failed: unable to open database file"
  | .noSuchUser id => "user " ++ shownId id ++ " does not exist"
  | .keyImmutable => "federation key is immutable"
  | .stated message => message

end StorageFault

namespace HostFault

/-- The name of the kind of a fault. -/
def kind : HostFault → String
  | .malformed => "IDNAError"
  | .letterRefused => "InvalidCodepoint"
  | .companyRefused => "InvalidCodepointContext"
  | .directionsMixed => "IDNABidiError"

end HostFault

namespace Trouble

/-- The name of the kind of trouble. -/
def kind : Trouble → String
  | .invalidAddress => "InvalidURL"
  | .relativeAddress => "ValueError"
  | .hostRefused fault => fault.kind
  | .integerTooLarge => "OverflowError"
  | .malformedValue => "ValueError"
  | .typeMismatch => "TypeError"
  | .entryMissing => "KeyError"
  | .partMissing => "AttributeError"
  | .malformedTemplate => "ValueError"
  | .unencodable _ => "UnicodeEncodeError"
  | .textTooLong => "MemoryError"
  | .unknownLevel => "ValueError"
  | .timeOutOfRange => "ValueError"
  | .timeUnrepresentable => "OSError"
  | .timesUnreadable => "TypeError"
  | .nameTooLong => "OSError"
  | .reported kind _ => kind

/-- How UTF-8 refuses a text: by the surrogates that come first in it, and where they stand. -/
def encodingWording (source : CodeString) : String :=
  let start := (source.takeWhile CodePoint.isScalar).length
  let refused := (source.drop start).takeWhile fun point => !point.isScalar
  let refusal := match refused with
    | [point] => "character '" ++ String.ofList (Quoted.positionEscape point.toNat) ++
        "' in position " ++ toString start
    | _ => "characters in position " ++ toString start ++ "-" ++
        toString (start + refused.length - 1)
  "'utf-8' codec can't encode " ++ refusal ++ ": surrogates not allowed"

/-- The wording of trouble. -/
def message : Trouble → String
  | .invalidAddress => "invalid address"
  | .relativeAddress => "unknown url type"
  | .hostRefused _ => "host name refused"
  | .integerTooLarge => "number too large"
  | .malformedValue => "malformed value"
  | .typeMismatch => "type mismatch"
  | .entryMissing => "entry missing"
  | .partMissing => "part missing"
  | .malformedTemplate => "malformed template"
  | .unencodable source => encodingWording source
  | .textTooLong => "text too long"
  | .unknownLevel => "unknown level"
  | .timeOutOfRange => "time out of range"
  | .timeUnrepresentable => "time beyond the clock"
  | .timesUnreadable => "fromisoformat: argument must be str"
  | .nameTooLong => "name too long"
  | .reported _ message => message

end Trouble

namespace Failure

/-- The wording of an answer that shows the service to be unavailable. -/
def serviceWording (status : CodeString) : CodeString :=
  CodePoint.ofText "verification service returned HTTP " ++ status

/-- The wording of a value that is taken already. -/
def duplicateWording (field value : CodeString) : CodeString :=
  CodePoint.ofText "duplicate " ++ field ++ CodePoint.ofText ": " ++ value

/-- The wording of a failure. -/
def message : Failure → CodeString
  | .general message => message
  | .configuration fault => fault.message
  | .transport fault => fault.message
  | .serviceUnavailable status _ => serviceWording (toString status)
  | .protocol fault => fault.message
  | .unauthenticated (some reason) => if reason = [] then "authentication failed" else reason
  | .unauthenticated none => "authentication failed"
  | .storage fault => fault.message
  | .duplicateKey field value => duplicateWording field value
  | .outside trouble => trouble.message

/-- The kinds that a failure belongs to, the narrowest first. -/
def kinds : Failure → List String
  | .general _ => ["FederationError"]
  | .configuration _ => ["ConfigurationError", "FederationError"]
  | .transport _ => ["TransportError", "FederationError"]
  | .serviceUnavailable _ _ => ["UpstreamUnavailable", "FederationError"]
  | .protocol _ => ["ProtocolError", "FederationError"]
  | .unauthenticated _ => ["Unauthenticated", "FederationError"]
  | .storage _ => ["StorageError", "FederationError"]
  | .duplicateKey _ _ => ["DuplicateKeyError", "StorageError", "FederationError"]
  | .outside trouble => [trouble.kind]

/-- The narrowest kind of a failure. -/
def kind : Failure → String
  | .outside trouble => trouble.kind
  | failure => failure.kinds.headD ""

/-- The failure of a kind with a wording of its own.  A kind outside the family is trouble that a
collaborator reports. -/
def stated (kind message : String) : Failure :=
  match kind with
  | "FederationError" => .general message
  | "ConfigurationError" => .configuration (.stated message)
  | "TransportError" => .transport (.stated message)
  | "ProtocolError" => .protocol (.stated message)
  | "Unauthenticated" => .unauthenticated (some message)
  | "StorageError" => .storage (.stated message)
  | _ => .outside (.reported kind message)

/-- Whether a failure is of a store's own making: a storage fault or a duplicate key. -/
def isStorage : Failure → Bool
  | .storage _ | .duplicateKey _ _ => true
  | _ => false

/-- Whether a failure lies outside the family. -/
def isOutside : Failure → Bool
  | .outside _ => true
  | _ => false

/-- What other failures are stated with is what they say. -/
theorem message_stated {kind : String} (other : kind ≠ "Unauthenticated") (wording : String) :
    (stated kind wording).message = wording := by
  rw [stated.eq_def]
  split <;> first | rfl | exact absurd rfl other

end Failure

end FederatedLogin

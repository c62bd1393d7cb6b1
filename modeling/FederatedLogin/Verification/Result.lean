import FederatedLogin.Failure
import FederatedLogin.Identity
import FederatedLogin.Json.Reader

/-!
# Verification results

The body of a response is judged against the wire schema.  `Result.ofPayload` names the first rule
that a payload breaks; the rules are tried in a fixed order, and the user is looked at only where
the payload says that the token is authentic.

Groups and further attributes that count as nothing are read as empty, whatever their type.
-/

namespace FederatedLogin.Verification

open FederatedLogin.Json FederatedLogin.Text

/-- What a response says. -/
structure Result where
  authenticated : Bool
  apiVersion : CodeString := []
  kind : CodeString := []
  error : Option CodeString := none
  user : Option Identity := none
  deriving DecidableEq, Repr

/-- The texts of an array of strings. -/
def texts? : Value → Option (List CodeString)
  | .array items => items.mapM Value.points?
  | _ => none

/-- The members of an object. -/
def members? : Value → Option (List Member)
  | .object members => some members
  | _ => none

/-- A member whose value is an array of strings. -/
def namedTexts? (member : Member) : Option (CodeString × List CodeString) :=
  (texts? member.2).map fun texts => (member.1, texts)

/-- The members of an object whose values are arrays of strings; of several with one name the last
counts. -/
def extraTexts? (extra : Value) : Option (List (CodeString × List CodeString)) :=
  (members? extra).bind fun members => (Value.entries members).mapM namedTexts?

/-- A member of an object, null where there is none. -/
def memberOrNull (name : String) (payload : Value) : Value :=
  (payload.member? name).getD .null

/-- A member that has to be a string or nothing. -/
def optionalMember (name : String) (payload : Value) :
    Except ProtocolFault CodeString :=
  match memberOrNull name payload with
  | .null => .ok []
  | .string points => .ok points
  | _ => .error (.memberNotString name)

/-- The items that an object has under a name, none where its member counts as nothing. -/
def itemsOf {Item : Type} (name : String) (read? : Value → Option (List Item))
    (fault : ProtocolFault) (object : Value) : Except ProtocolFault (List Item) :=
  let value := memberOrNull name object
  if value.isVoid then .ok []
  else
    match read? value with
    | some items => .ok items
    | none => .error fault

/-- The groups of a user. -/
def groupsOf : Value → Except ProtocolFault (List CodeString) :=
  itemsOf "groups" texts? .groupsNotStrings

/-- The further attributes of a user. -/
def extraOf : Value → Except ProtocolFault (List (CodeString × List CodeString)) :=
  itemsOf "extra" extraTexts? .extraNotStringLists

/-- The identifier of a user. -/
def uidOf (user : Value) : Except ProtocolFault CodeString :=
  match user.member? "uid" with
  | some (.string points) =>
      if points.isEmpty then .error .uidMissing else .ok points
  | _ => .error .uidMissing

/-- The name of a user, which may be missing but not null. -/
def usernameOf (user : Value) : Except ProtocolFault CodeString :=
  match user.member? "username" with
  | none => .ok []
  | some (.string points) => .ok points
  | some _ => .error .usernameNotString

/-- The identity that a user object asserts. -/
def identityOf (user : Value) : Except ProtocolFault Identity :=
  match user with
  | .object _ => do
      let uid ← uidOf user
      let username ← usernameOf user
      let groups ← groupsOf user
      let extra ← extraOf user
      return { uid, username, groups, extra }
  | _ => .error .userMissing

/-- The status object of a payload. -/
def statusOf (payload : Value) : Except ProtocolFault Value :=
  match payload with
  | .object _ =>
      match payload.member? "status" with
      | some (.object members) => .ok (.object members)
      | _ => .error .statusMissing
  | _ => .error .bodyNotObject

/-- Whether a status says that the token is authentic; it does not where it says nothing. -/
def authenticatedOf (status : Value) : Except ProtocolFault Bool :=
  match status.member? "authenticated" with
  | none => .ok false
  | some (.bool authenticated) => .ok authenticated
  | some _ => .error .authenticatedNotBoolean

/-- The error of a status; an empty one is none. -/
def errorOf (status : Value) : Except ProtocolFault (Option CodeString) :=
  match memberOrNull "error" status with
  | .null => .ok none
  | .string points => .ok (if points.isEmpty then none else some points)
  | _ => .error .errorNotString

/-- The result that a payload states. -/
def Result.ofPayload (payload : Value) : Except ProtocolFault Result := do
  let status ← statusOf payload
  let authenticated ← authenticatedOf status
  let error ← errorOf status
  let user ←
    if authenticated then
      (identityOf (memberOrNull "user" status)).map some
    else
      .ok none
  let apiVersion ← optionalMember "apiVersion" payload
  let kind ← optionalMember "kind" payload
  return { authenticated, apiVersion, kind, error, user }

/-- The error that the body of a rejection states, where it can be read at all. -/
def rejectionReason [Platform] (body : List UInt8) : Option CodeString :=
  match Value.ofBytes? body with
  | none => none
  | some payload =>
      match (payload.member? "status").bind (·.member? "error") with
      | some (.string points) => if points.isEmpty then none else some points
      | _ => none

end FederatedLogin.Verification

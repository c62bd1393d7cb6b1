import FederatedLogin.Identity
import FederatedLogin.Json.Shown
import FederatedLogin.User
import FederatedLogin.Verification.Result

/-!
# How records are shown

A record is shown as the name of its type and its fields in order, each with its name.  Tokens and
passwords are not among the fields that are shown.

The shape of a type says what its fields are.  With it a record can also be made of the texts that
show its fields, whatever they hold; `Shape.make` looks whether they are all there.
-/

namespace FederatedLogin.Display

open FederatedLogin.Text FederatedLogin.Json.Shown

/-- A field of a type of records. -/
structure Field where
  name : String
  /-- What shows the field where it is not given.  A field without it has to be given. -/
  fallback : Option String := none
  isShown : Bool := true

/-- What a type of records looks like. -/
structure Shape where
  name : String
  fields : List Field

/-- A field that is not shown. -/
def hidden (name : String) (fallback : Option String) : Field :=
  { name, fallback, isShown := false }

/-- A field that has to be given. -/
def required (name : String) : Field :=
  { name }

/-- A field that can be left out. -/
def optional (name fallback : String) : Field :=
  { name, fallback := some fallback }

namespace Shape

/-- The shape of credentials. -/
def credential : Shape :=
  ⟨"Credential", [required "principal", hidden "token" none]⟩

/-- The shape of verification requests. -/
def verificationRequest : Shape :=
  ⟨"VerificationRequest", [hidden "token" none]⟩

/-- The shape of identities. -/
def identity : Shape :=
  ⟨"ExternalIdentity",
    [required "uid", required "username", optional "groups" "[]", optional "extra" "\x7b\x7d"]⟩

/-- The shape of local users. -/
def user : Shape :=
  ⟨"LocalUser",
    [required "federation_key", required "username", optional "email" (quoted []),
     hidden "password" (some (quoted [])), optional "comment" (quoted managedComment),
     optional "user_id" missing]⟩

/-- The shape of verification results. -/
def result : Shape :=
  ⟨"VerificationResult",
    [required "authenticated", optional "api_version" (quoted []), optional "kind" (quoted []),
     optional "error" missing, optional "user" missing]⟩

/-- A record whose fields are shown by texts under their names. -/
def shown (shape : Shape) (given : List (String × String)) : String :=
  let fields := shape.fields.filter (·.isShown)
  let text (field : Field) : String := (given.lookup field.name).getD (field.fallback.getD missing)
  shape.name ++ "(" ++
    commaSeparated (fields.map fun field => field.name ++ "=" ++ text field) ++ ")"

/-- Whether all fields that have to be are given, and no others than there are. -/
def fits (shape : Shape) (given : List (String × String)) : Bool :=
  (shape.fields.all fun field => field.fallback.isSome || (given.lookup field.name).isSome) &&
    given.all fun (name, _) => shape.fields.any (·.name == name)

/-- The record that is made of the texts under the names of its fields. -/
def make (shape : Shape) (given : List (String × String)) : Except Trouble String :=
  if shape.fits given then .ok (shape.shown given) else .error .typeMismatch

end Shape

/-- A list of texts. -/
def textList (texts : List CodeString) : String :=
  "[" ++ commaSeparated (texts.map quoted) ++ "]"

/-- Texts under names. -/
def textLists (entries : List (CodeString × List CodeString)) : String :=
  let shown := entries.map fun (name, texts) => quoted name ++ ": " ++ textList texts
  "\x7b" ++ commaSeparated shown ++ "\x7d"

/-- A text that may be missing. -/
def optionalText (value : Option CodeString) : String :=
  (value.map quoted).getD missing

/-- A principal. -/
def principal : Principal → String
  | .named name => quoted name
  | .unnamed => "[]"

/-- A credential; its token is not shown. -/
def credential (value : Credential) : String :=
  Shape.credential.shown [("principal", principal value.principal)]

/-- An identity. -/
def identity (value : Identity) : String :=
  Shape.identity.shown
    [("uid", quoted value.uid), ("username", quoted value.username),
     ("groups", textList value.groups), ("extra", textLists value.extra)]

/-- A local user; the password is not shown. -/
def user (value : User) : String :=
  Shape.user.shown
    [("federation_key", quoted value.federationKey), ("username", quoted value.username),
     ("email", quoted value.email), ("comment", quoted value.comment),
     ("user_id", (value.id.map toString).getD missing)]

/-- A verification result. -/
def result (value : Verification.Result) : String :=
  Shape.result.shown
    [("authenticated", flag value.authenticated), ("api_version", quoted value.apiVersion),
     ("kind", quoted value.kind), ("error", optionalText value.error),
     ("user", (value.user.map identity).getD missing)]

/-- Users that differ only in their passwords are shown alike. -/
theorem user_password (value : User) (password : CodeString) :
    user { value with password } = user value :=
  rfl

end FederatedLogin.Display

import FederatedLogin.Random
import FederatedLogin.Text.CodePoint

/-!
# Local users

A local user is the record that an identity is mapped onto.  It is found again by its federation
key and needs an e-mail of its own; where the service knows none, a placeholder is derived from the
user name, or drawn at random.
-/

namespace FederatedLogin

open FederatedLogin.Text

/-- The comment on records that logins create. -/
def managedComment : CodeString :=
  "managed by token federation, do not edit"

/-- A local user; the identifier is missing until a store has assigned one. -/
structure User where
  federationKey : CodeString
  username : CodeString
  email : CodeString := []
  password : CodeString := []
  comment : CodeString := managedComment
  id : Option Int := none
  deriving DecidableEq, Repr

/-- What every placeholder e-mail ends with. -/
def placeholderSuffix : CodeString :=
  "@placeholder.local"

/-- Whether an e-mail is a placeholder, which may be derived anew. -/
def isPlaceholderEmail (email : CodeString) : Bool :=
  placeholderSuffix.isSuffixOf email

/-- How many random bytes the local part of a placeholder takes. -/
def localPartBytes : Nat :=
  8

/-- How many random bytes a password takes. -/
def passwordBytes : Nat :=
  16

namespace User

/-- The e-mail of a user: the one it has, the one derived from its name, or a random one. -/
def chooseEmail (user : User) (random : RandomSource) : CodeString × RandomSource :=
  if user.email ≠ [] then (user.email, random)
  else if user.username ≠ [] then (user.username ++ placeholderSuffix, random)
  else
    let (localPart, rest) := random.text localPartBytes
    (CodePoint.ofText localPart ++ placeholderSuffix, rest)

/-- The texts of a user. -/
def texts (user : User) : List CodeString :=
  [user.federationKey, user.username, user.email, user.password, user.comment]

/-- Whether all texts of a user can be encoded. -/
def isEncodable (user : User) : Bool :=
  user.texts.all CodeString.isEncodable

theorem isEncodable_iff {user : User} :
    user.isEncodable ↔ CodeString.unencodable? user.texts = none := by
  rw [isEncodable, List.all_eq_true, CodeString.unencodable?_eq_none_iff]

/-- A user with an e-mail keeps it and costs no randomness. -/
theorem chooseEmail_of_email {user : User} (random : RandomSource) (h : user.email ≠ []) :
    user.chooseEmail random = (user.email, random) := by
  simp [chooseEmail, h]

end User

example : isPlaceholderEmail "a@b@placeholder.local" := by decide +kernel
example : isPlaceholderEmail "placeholder.local" = false := by decide +kernel

end FederatedLogin

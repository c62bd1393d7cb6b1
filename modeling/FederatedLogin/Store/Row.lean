import FederatedLogin.User

/-!
# Rows

A row is a user as it is stored: with an identifier, which counts up from one.  The rows of a store
are the view through which both kinds of store are described.
-/

namespace FederatedLogin.Store

open FederatedLogin.Text

/-- A stored user. -/
structure Row where
  id : Nat
  federationKey : CodeString
  username : CodeString
  email : CodeString
  password : CodeString
  comment : CodeString
  deriving DecidableEq, Repr

namespace Row

/-- The row that a user becomes under an identifier. -/
def ofUser (id : Nat) (user : User) : Row where
  id := id
  federationKey := user.federationKey
  username := user.username
  email := user.email
  password := user.password
  comment := user.comment

/-- The user that a row holds. -/
def toUser (row : Row) : User where
  federationKey := row.federationKey
  username := row.username
  email := row.email
  password := row.password
  comment := row.comment
  id := some row.id

@[simp]
theorem ofUser_toUser (row : Row) : ofUser row.id row.toUser = row :=
  rfl

@[simp]
theorem toUser_ofUser (id : Nat) (user : User) :
    (ofUser id user).toUser = { user with id := some (id : Int) } :=
  rfl

/-- A row with another name and e-mail; nothing else of a row ever changes. -/
def rename (row : Row) (username email : CodeString) : Row :=
  { row with username, email }

end Row

end FederatedLogin.Store

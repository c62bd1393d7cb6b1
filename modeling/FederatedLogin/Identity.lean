import FederatedLogin.Text.CodePoint

/-!
# Credentials and identities

A credential is what somebody presents at login.  Only its token counts; the principal is a name
from outside that correlates log lines, or no name at all.  An identity is what the verification
service asserts about the holder of the token.
-/

namespace FederatedLogin

open FederatedLogin.Text

/-- What a login goes by in the log. -/
inductive Principal where
  | named (name : String)
  | unnamed
  deriving DecidableEq, Repr

/-- What is presented at login. -/
structure Credential where
  principal : Principal
  token : String
  deriving DecidableEq, Repr

/-- What the verification service asserts: an unchanging identifier, a name that may change, the
groups of the holder and further attributes. -/
structure Identity where
  uid : CodeString
  username : CodeString
  groups : List CodeString := []
  extra : List (CodeString × List CodeString) := []
  deriving DecidableEq, Repr

end FederatedLogin

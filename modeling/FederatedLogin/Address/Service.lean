import FederatedLogin.Address.Basic
import FederatedLogin.HostName.Label
import FederatedLogin.Text.Blank

/-!
# The verification service

The base address of the verification service comes from outside.  `serviceUrl` admits absolute http
and https addresses and puts them in their normal form, without slashes at the end.  A host that is
no international name although it is written as one is trouble outside the family of failures.
Tokens are posted to `authenticateUrl`, which lies below the base.
-/

namespace FederatedLogin.Address

open FederatedLogin.Text

/-- Where tokens are posted, below the base. -/
def authenticatePath : String :=
  "/authenticate/token"

/-- A text without the slashes at its end. -/
def withoutEndSlashes (source : String) : String :=
  String.ofList (dropEndWhile (· == '/') source.toList)

/-- Whether an address has a scheme that the service can have. -/
def isWeb (address : Address) : Bool :=
  address.scheme == "http".toList || address.scheme == "https".toList

/-- Looks whether the host of an address is in order.  Only a name whose first label is in Punycode
is looked at. -/
def checkHost (address : Address) : Except Failure Unit :=
  if HostName.marker.isPrefixOf address.host then
    (HostName.check address.host).mapError fun fault => .outside (.hostRefused fault)
  else .ok ()

/-- The normal form of the base address of the service. -/
def serviceUrl (written : String) : Except Failure String :=
  match Address.ofText? (strip written) with
  | none => .error (.configuration (.verifyUrlInvalid written))
  | some address => do
      if address.isWeb then address.checkHost
      if address.isWeb && !address.host.isEmpty then return withoutEndSlashes address.text
      else throw (.configuration (.verifyUrlNotAbsolute written))

/-- Where tokens are posted for a base address. -/
def authenticateUrl (base : String) : String :=
  withoutEndSlashes base ++ authenticatePath

end FederatedLogin.Address

import FederatedLogin.Failure.System

/-!
# Accounts of failures

A failure can be told by the name of its kind and any values that describe it.  The kinds with
fields of their own take exactly the values for these fields, of whatever type they are; for all
others the values are the wording.

An account of a failure of this library says what the failure says: its kinds, its wording, and the
values of its fields.
-/

namespace FederatedLogin

open FederatedLogin.Json FederatedLogin.Text

/-- The fields that a kind of failure has for itself. -/
inductive Particulars where
  | nothing
  | service (status body : Value)
  | rejection (reason : Value)
  | duplicate (field value : Value)

/-- What is told of a failure. -/
structure Account where
  /-- The kinds it belongs to, the narrowest first. -/
  kinds : List String
  wording : CodeString
  particulars : Particulars

namespace Account

/-- The narrowest kind of a failure. -/
def kind (account : Account) : String :=
  account.kinds.headD ""

/-- Whether a failure is one of this library. -/
def isOfFamily (account : Account) : Bool :=
  account.kinds.contains "FederationError"

/-- The wording that values make.  A missing entry is named between quotes. -/
def wordingOf (kind : String) (values : List Value) : CodeString :=
  match kind, values with
  | "KeyError", [name] => Shown.nested name
  | _, values => Shown.together values

/-- The account of a rejection for a reason, which may be void. -/
def rejected (reason : Value) : Account :=
  let wording := if reason.isVoid then (Failure.unauthenticated none).message
    else Shown.plain reason
  ⟨(Failure.unauthenticated none).kinds, wording, .rejection reason⟩

/-- The account of a failure of a kind with values that describe it. -/
def ofValues (kind : String) (values : List Value) : Except Trouble Account :=
  match kind, values with
  | "Unauthenticated", [] => .ok (rejected .null)
  | "Unauthenticated", [reason] => .ok (rejected reason)
  | "UpstreamUnavailable", [status, body] =>
      .ok ⟨(Failure.serviceUnavailable 0 "").kinds, Failure.serviceWording (Shown.plain status),
        .service status body⟩
  | "DuplicateKeyError", [field, value] =>
      .ok ⟨(Failure.duplicateKey "" []).kinds,
        Failure.duplicateWording (Shown.plain field) (Shown.plain value), .duplicate field value⟩
  | kind, values =>
      if ["Unauthenticated", "UpstreamUnavailable", "DuplicateKeyError"].contains kind then
        .error .typeMismatch
      else if SystemFailure.isKind (SystemFailure.kindNamed kind) then do
        let (kind, wording) ← SystemFailure.ofValues (SystemFailure.kindNamed kind) values
        return ⟨[kind], wording, .nothing⟩
      else .ok ⟨(Failure.stated kind "").kinds, wordingOf kind values, .nothing⟩

end Account

end FederatedLogin

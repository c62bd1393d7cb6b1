import FederatedLogin.Address.Service
import FederatedLogin.Event
import FederatedLogin.Verification.Request
import FederatedLogin.Verification.Result

/-!
# The verification exchange

One request goes to the service and one reply comes back.  `judge` gives the verdict on a response
from its status and its body; `verify` adds the request and what can go wrong around it.

The exchange depends on nothing but the address, the credential and the reply, and is never
repeated.
-/

namespace FederatedLogin.Verification

open FederatedLogin.Text

variable [Platform]

/-- When something goes wrong: before the response starts, or while its body is read. -/
inductive Moment where
  | sending
  | reading
  deriving DecidableEq, Repr

/-- How the service replies. -/
inductive Reply where
  /-- A response, with its body read in full. -/
  | response (status : Int) (body : List UInt8)
  /-- The request fails. -/
  | requestFailed (moment : Moment) (kind message : String)
  /-- Something else goes wrong meanwhile. -/
  | disturbed (moment : Moment) (kind message : String)
  deriving DecidableEq, Repr

namespace Reply

/-- Whether a response starts to arrive. -/
def starts : Reply → Bool
  | .response .. => true
  | .requestFailed moment .. | .disturbed moment .. => moment == .reading

end Reply

/-- A result together with what was logged on the way. -/
structure Logged (α : Type) where
  result : Except Failure α
  events : List Event

/-- What came of an exchange, and the requests that the service received. -/
structure Exchange where
  result : Except Failure Identity
  events : List Event
  requests : List Request

/-- How much of the text of a failed response is logged. -/
def loggedLength : Nat :=
  200

/-- The verdict on a payload that came with the status of success. -/
def judgePayload (principal : Principal) (status : Int) (payload : Json.Value) : Logged Identity :=
  match Result.ofPayload payload with
  | .error fault => ⟨.error (.protocol fault), [.responseRefused principal fault]⟩
  | .ok result =>
      match result.authenticated, result.user with
      | true, some identity =>
          ⟨.ok identity,
            [.tokenVerified principal identity.uid identity.username identity.groups.length]⟩
      | _, _ =>
          ⟨.error (.unauthenticated result.error), [.rejected principal status result.error]⟩

/-- The verdict on a response: a failure of the service from 500 on, a rejection for every other
status but 200, and else what the body says. -/
def judge (principal : Principal) (status : Int) (body : List UInt8) : Logged Identity :=
  if 500 ≤ status then
    let text := Utf8.decodeReplacing body
    let shown := String.ofList (text.toList.take loggedLength)
    ⟨.error (.serviceUnavailable status text), [.serviceFailed principal status shown]⟩
  else if status ≠ 200 then
    let reason := rejectionReason body
    ⟨.error (.unauthenticated reason), [.rejected principal status reason]⟩
  else
    match Json.Value.ofBytes? body with
    | none =>
        ⟨.error (.protocol .notJson), [.responseUnreadable principal "not a JSON document"]⟩
    | some payload => judgePayload principal status payload

/-- What comes of a request to an address.  A response from an address that is not absolute is
refused as soon as it starts. -/
def exchange (url : String) (isAbsolute : Bool) (principal : Principal) (reply : Reply) :
    Logged Identity :=
  if reply.starts && !isAbsolute then ⟨.error (.outside .relativeAddress), []⟩
  else
    match reply with
    | .requestFailed _ kind message =>
        ⟨.error (.transport (.unreachable kind)),
          [.serviceUnreachable principal url message kind]⟩
    | .disturbed _ kind message => ⟨.error (.outside (.reported kind message)), []⟩
    | .response status body => judge principal status body

/-- The exchange for a credential at the service with a base address.  Nothing is sent to a text
that is no address, or to a host whose name is not in order. -/
def verify (base : String) (credential : Credential) (reply : Reply) : Exchange :=
  let url := Address.authenticateUrl base
  match (Address.ofText? url).bind Address.requested? with
  | none => ⟨.error (.outside .invalidAddress), [], []⟩
  | some address =>
      match address.checkHost with
      | .error failure => ⟨.error failure, [], []⟩
      | .ok () =>
          let came := exchange url address.isAbsolute credential.principal reply
          ⟨came.result, came.events, [requestTo address.text credential.token]⟩

end FederatedLogin.Verification

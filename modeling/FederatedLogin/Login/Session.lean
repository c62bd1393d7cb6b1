import FederatedLogin.Login.Reconcile
import FederatedLogin.Verification.Exchange

/-!
# Sessions

A session is a resolver at work: logins and their two halves, direct operations on its store, and
faults that are planted in it.  A step gives a record of what it answered, logged, requested and
left stored.
-/

namespace FederatedLogin

open FederatedLogin.Verification

variable [Platform]

/-- What came of a login, with the requests that the service received. -/
structure LoginOutcome where
  outcome : Outcome User
  requests : List Request

/-- A login: the exchange, and the reconciliation of the identity it gives. -/
def login (base : String) (credential : Credential) (reply : Reply) (backend : Backend) :
    LoginOutcome :=
  let greeting := Event.authenticating credential.principal
  let exchange := verify base credential reply
  match exchange.result with
  | .error failure => ⟨⟨.error failure, greeting :: exchange.events, backend⟩, exchange.requests⟩
  | .ok identity =>
      let reconciled := reconcile identity credential.principal backend
      ⟨{ reconciled with events := greeting :: exchange.events ++ reconciled.events },
        exchange.requests⟩

/-- A login fails as its exchange does. -/
theorem login_of_error {base : String} {credential : Credential} {reply : Reply} {failure : Failure}
    (backend : Backend) (refused : (verify base credential reply).result = .error failure) :
    login base credential reply backend =
      ⟨⟨.error failure,
        .authenticating credential.principal :: (verify base credential reply).events, backend⟩,
        (verify base credential reply).requests⟩ := by
  simp only [login, refused]

/-- A login whose exchange gives an identity does what the reconciliation of the identity does. -/
theorem login_of_ok {base : String} {credential : Credential} {reply : Reply} {identity : Identity}
    (backend : Backend) (verified : (verify base credential reply).result = .ok identity) :
    login base credential reply backend =
      ⟨⟨(reconcile identity credential.principal backend).result,
        .authenticating credential.principal :: (verify base credential reply).events ++
          (reconcile identity credential.principal backend).events,
        (reconcile identity credential.principal backend).backend⟩,
        (verify base credential reply).requests⟩ := by
  simp only [login, verified]

/-- A session: the base address of the service and the backend. -/
structure Session where
  base : String
  backend : Backend

namespace Session

/-- One thing to do in a session. -/
inductive Step where
  | login (credential : Credential) (reply : Reply)
  | verify (credential : Credential) (reply : Reply)
  | reconcile (identity : Identity) (principal : Principal)
  | create (user : User)
  | update (user : User)
  | find (key : Text.CodeString)
  | size
  | createSchema
  | plant (operation : Backend.Operation) (ambush : Ambush)

/-- What a step answers when it succeeds. -/
inductive Answer where
  | user (user : User)
  | identity (identity : Identity)
  | created (id : Nat)
  | found (user : Option User)
  | size (count : Nat)
  | done
  deriving DecidableEq

/-- The record of a step.  Requests are recorded for the steps that may make some. -/
structure Entry where
  result : Except Failure Answer
  events : List Event
  requests : Option (List Request)
  rows : Option (List Store.Row)

/-- A session after a step, and the record of the step. -/
def after {α : Type} (session : Session) (outcome : Outcome α) (answer : α → Answer)
    (requests : Option (List Request)) : Session × Entry :=
  ({ session with backend := outcome.backend },
    { result := outcome.result.map answer
      events := outcome.events
      requests := requests
      rows := outcome.backend.store.rows })

/-- Takes one step. -/
def step (session : Session) : Step → Session × Entry
  | .login credential reply =>
      let made := FederatedLogin.login session.base credential reply session.backend
      session.after made.outcome .user (some made.requests)
  | .verify credential reply =>
      let exchange := Verification.verify session.base credential reply
      session.after ⟨exchange.result, exchange.events, session.backend⟩ .identity
        (some exchange.requests)
  | .reconcile identity principal =>
      session.after (FederatedLogin.reconcile identity principal session.backend) .user none
  | .create user => session.after (session.backend.create user) .created none
  | .update user => session.after (session.backend.update user) (fun _ => .done) none
  | .find key => session.after (session.backend.find key) .found none
  | .size => session.after ⟨.ok session.backend.store.size, [], session.backend⟩ .size none
  | .createSchema =>
      let store := session.backend.store.createSchema
      session.after ⟨.ok (), [], { session.backend with store }⟩ (fun _ => .done) none
  | .plant operation ambush =>
      session.after ⟨.ok (), [], session.backend.ambush operation ambush⟩ (fun _ => .done) none

/-- Takes steps in order; the records stand in the same order. -/
def run (session : Session) : List Step → Session × List Entry
  | [] => (session, [])
  | first :: rest =>
      let (next, entry) := session.step first
      let (last, entries) := next.run rest
      (last, entry :: entries)

/-- A session at its start. -/
def start (base : String) (store : Store) (random : RandomSource) : Session where
  base := base
  backend := { store, random }

end Session

end FederatedLogin

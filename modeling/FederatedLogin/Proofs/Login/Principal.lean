import FederatedLogin.Login.Session
import FederatedLogin.Proofs.Verification.Exchange

/-!
# Logs under another principal

A principal appears in events and nowhere else.  `Event.withPrincipal` puts another principal in its
place, and whatever a login does for one principal is what it does for the other, with the events
under that one.
-/

namespace FederatedLogin

open FederatedLogin.Verification FederatedLogin.Json FederatedLogin.Text

/-- An event under another principal; some events name none. -/
def Event.withPrincipal (principal : Principal) : Event → Event
  | .authenticating _ => .authenticating principal
  | .serviceUnreachable _ url message kind => .serviceUnreachable principal url message kind
  | .serviceFailed _ status response => .serviceFailed principal status response
  | .rejected _ status reason => .rejected principal status reason
  | .responseUnreadable _ detail => .responseUnreadable principal detail
  | .responseRefused _ fault => .responseRefused principal fault
  | .tokenVerified _ uid username groups => .tokenVerified principal uid username groups
  | .userCreated _ uid id username => .userCreated principal uid id username
  | .userResolved _ uid id => .userResolved principal uid id
  | .userRenamed _ uid id previous username => .userRenamed principal uid id previous username
  | .storeFailed _ uid failure => .storeFailed principal uid failure
  | .tokenMissing _ => .tokenMissing principal
  | .authenticationFailed _ failure => .authenticationFailed principal failure
  | event => event

/-- A field under another principal. -/
def FieldValue.withPrincipal (principal : Principal) (field : String × FieldValue) :
    String × FieldValue :=
  if field.1 = "principal" then ("principal", .principal principal) else field

namespace Event

@[simp]
theorem level_withPrincipal (principal : Principal) (event : Event) :
    (event.withPrincipal principal).level = event.level := by
  cases event <;> rfl

@[simp]
theorem text_withPrincipal (principal : Principal) (event : Event) :
    (event.withPrincipal principal).text = event.text := by
  cases event <;> rfl

theorem fields_withPrincipal (principal : Principal) (event : Event) :
    (event.withPrincipal principal).fields =
      event.fields.map (FieldValue.withPrincipal principal) := by
  cases event <;> simp [withPrincipal, fields, FieldValue.withPrincipal]

/-- The last principal counts. -/
@[simp]
theorem withPrincipal_withPrincipal (principal other : Principal) (event : Event) :
    (event.withPrincipal principal).withPrincipal other = event.withPrincipal other := by
  cases event <;> rfl

/-- An event that has no field of a principal. -/
def Unnamed (event : Event) : Prop :=
  ∀ field ∈ event.fields, field.1 ≠ "principal"

theorem withPrincipal_of_unnamed {event : Event} (unnamed : event.Unnamed)
    (principal : Principal) : event.withPrincipal principal = event := by
  cases event <;> simp [Unnamed, fields, withPrincipal] at unnamed ⊢

theorem map_withPrincipal_of_unnamed {events : List Event}
    (unnamed : ∀ event ∈ events, event.Unnamed) (principal : Principal) :
    events.map (withPrincipal principal) = events := by
  rw [List.map_congr_left (g := id), List.map_id]
  intro event eventMem
  exact withPrincipal_of_unnamed (unnamed event eventMem) principal

end Event

variable {backend : Backend} {principal other : Principal}

/-! ## The store names no principal -/

theorem unnamed_find (backend : Backend) (key : CodeString) :
    ∀ event ∈ (backend.find key).events, event.Unnamed := by
  rw [Backend.find]
  split <;> simp

theorem unnamed_create (backend : Backend) (user : User) :
    ∀ event ∈ (backend.create user).events, event.Unnamed := by
  rw [Backend.create]
  split
  · simp
  · split <;> simp [Event.Unnamed, Event.fields]

theorem unnamed_update (backend : Backend) (user : User) :
    ∀ event ∈ (backend.update user).events, event.Unnamed := by
  rw [Backend.update]
  split
  · simp
  · split <;> simp [Event.Unnamed, Event.fields]

/-! ## Reconciliation -/

/-- An outcome under another principal. -/
def Outcome.withPrincipal {α : Type} (principal : Principal) (outcome : Outcome α) : Outcome α :=
  { outcome with events := outcome.events.map (Event.withPrincipal principal) }

theorem withPrincipal_failed {α : Type} (uid : CodeString) (failure : Failure) {events : List Event}
    (unnamed : ∀ event ∈ events, event.Unnamed) :
    (Outcome.failed principal uid failure events backend : Outcome α).withPrincipal other =
      .failed other uid failure events backend := by
  have kept := Event.map_withPrincipal_of_unnamed unnamed other
  rw [Outcome.withPrincipal]
  cases failure <;> simp [Outcome.failed, reportStoreFailure, kept, Event.withPrincipal]

theorem withPrincipal_enroll (identity : Identity) (backend : Backend) :
    (enroll identity principal backend).withPrincipal other = enroll identity other backend := by
  have unnamed := unnamed_create { backend with random := (newUser identity backend.random).2 }
    (newUser identity backend.random).1
  have kept := Event.map_withPrincipal_of_unnamed unnamed other
  simp only [enroll]
  split
  · simp only [Outcome.withPrincipal, List.map_append, kept, List.map_cons, List.map_nil,
      Event.withPrincipal]
  · exact withPrincipal_failed _ _ unnamed

theorem withPrincipal_rename (existing : User) (identity : Identity) (backend : Backend) :
    (rename existing identity principal backend).withPrincipal other =
      rename existing identity other backend := by
  have unnamed := unnamed_update
    { backend with random := (renamedUser existing identity.username backend.random).2 }
    (renamedUser existing identity.username backend.random).1
  have kept := Event.map_withPrincipal_of_unnamed unnamed other
  simp only [rename]
  split
  · simp only [Outcome.withPrincipal, List.map_append, kept, List.map_cons, List.map_nil,
      Event.withPrincipal]
  · exact withPrincipal_failed _ _ unnamed

/-- A reconciliation for one principal is that for another, logged under the other. -/
theorem withPrincipal_reconcile (identity : Identity) (backend : Backend) :
    (reconcile identity principal backend).withPrincipal other =
      reconcile identity other backend := by
  simp only [reconcile]
  split
  · exact withPrincipal_failed _ _ (unnamed_find _ _)
  · exact withPrincipal_enroll _ _
  · split
    · rfl
    · exact withPrincipal_rename _ _ _

/-! ## Verification -/

/-- A logged result under another principal. -/
def Verification.Logged.withPrincipal {α : Type} (principal : Principal) (logged : Logged α) :
    Logged α :=
  { logged with events := logged.events.map (Event.withPrincipal principal) }

theorem withPrincipal_judgePayload (status : Int) (payload : Value) :
    (judgePayload principal status payload).withPrincipal other =
      judgePayload other status payload := by
  simp only [judgePayload]
  split
  · rfl
  · split <;> rfl

variable [Platform]

theorem withPrincipal_judge (status : Int) (body : List UInt8) :
    (judge principal status body).withPrincipal other = judge other status body := by
  simp only [judge]
  split
  · rfl
  · split
    · rfl
    · split
      · rfl
      · exact withPrincipal_judgePayload _ _

/-- An exchange for one principal is that for another, logged under the other. -/
theorem withPrincipal_exchange (url : String) (isAbsolute : Bool) (reply : Reply) :
    (exchange url isAbsolute principal reply).withPrincipal other =
      exchange url isAbsolute other reply := by
  simp only [exchange]
  split
  · rfl
  · cases reply with
    | response status body => exact withPrincipal_judge status body
    | requestFailed moment kind message => rfl
    | disturbed moment kind message => rfl

/-! ## Logins -/

theorem result_verify (base : String) (credential other : Credential) (reply : Reply) :
    (verify base credential reply).result = (verify base other reply).result := by
  cases aimed : target? base with
  | error failure => rw [verify_of_target_error aimed, verify_of_target_error aimed]
  | ok address =>
      rw [verify_of_target aimed, verify_of_target aimed, ← withPrincipal_exchange]
      rfl

theorem map_events_verify (base : String) (credential other : Credential) (reply : Reply) :
    (verify base credential reply).events.map (Event.withPrincipal other.principal) =
      (verify base other reply).events := by
  cases aimed : target? base with
  | error failure =>
      rw [verify_of_target_error aimed, verify_of_target_error aimed]
      rfl
  | ok address =>
      rw [verify_of_target aimed, verify_of_target aimed]
      exact congrArg Logged.events (withPrincipal_exchange _ address.isAbsolute reply)

/-- A login with one credential is that with another, logged under the principal of the other. -/
theorem withPrincipal_login (base : String) (credential other : Credential) (reply : Reply)
    (backend : Backend) :
    (login base credential reply backend).outcome.withPrincipal other.principal =
      (login base other reply backend).outcome := by
  have sameResult := result_verify base credential other reply
  have events := map_events_verify base credential other reply
  cases verified : (verify base credential reply).result with
  | error failure =>
      rw [login_of_error backend verified, login_of_error backend (sameResult.symm.trans verified),
        ← events]
      rfl
  | ok identity =>
      have reconciled : (reconcile identity credential.principal backend).withPrincipal
          other.principal = reconcile identity other.principal backend :=
        withPrincipal_reconcile identity backend
      rw [login_of_ok backend verified, login_of_ok backend (sameResult.symm.trans verified),
        ← events, ← reconciled]
      simp only [Outcome.withPrincipal, List.map_append, List.map_cons, Event.withPrincipal]

theorem requests_login (base : String) (credential : Credential) (reply : Reply)
    (backend : Backend) :
    (login base credential reply backend).requests = (verify base credential reply).requests := by
  cases verified : (verify base credential reply).result with
  | error failure => rw [login_of_error backend verified]
  | ok identity => rw [login_of_ok backend verified]

end FederatedLogin

import FederatedLogin.Proofs.Login.Report

/-!
# What a failed login does not blame

A login fails because of the service, of its reply, of the store or of trouble around them.  None of
its failures blames the configuration, so one that does comes from before the login.
-/

namespace FederatedLogin

open FederatedLogin.Verification

namespace Failure

variable {failure : Failure}

/-- Whether a failure blames the configuration. -/
def isConfiguration : Failure → Bool
  | .configuration _ => true
  | _ => false

theorem isConfiguration_of_isOutside (outside : failure.isOutside) :
    failure.isConfiguration = false := by
  cases failure <;> first | rfl | cases outside

theorem isConfiguration_of_isOfService (ofService : failure.isOfService) :
    failure.isConfiguration = false := by
  cases failure <;> first | rfl | cases ofService

theorem isConfiguration_of_isStorage (storage : failure.isStorage) :
    failure.isConfiguration = false := by
  cases failure <;> first | rfl | cases storage

end Failure

/-- A result that, if it is a failure, does not blame the configuration. -/
def Blameless {α : Type} (result : Except Failure α) : Prop :=
  ∀ failure, result = .error failure → failure.isConfiguration = false

theorem Blameless.error {α : Type} {failure : Failure}
    (other : failure.isConfiguration = false) : Blameless (.error failure : Except Failure α) := by
  intro raised failed
  cases failed
  exact other

variable [Platform]

theorem blameless_exchange (url : String) (isAbsolute : Bool) (principal : Principal)
    (reply : Reply) : Blameless (exchange url isAbsolute principal reply).result := by
  simp only [exchange]
  split
  · exact .error rfl
  · cases reply with
    | response status body =>
        intro failure failed
        have reported := reported_judge principal status body
        rw [failed] at reported
        cases reported with
        | failed ofService => exact Failure.isConfiguration_of_isOfService ofService
    | requestFailed moment kind message => exact .error rfl
    | disturbed moment kind message => exact .error rfl

theorem blameless_verify (base : String) (credential : Credential) (reply : Reply) :
    Blameless (verify base credential reply).result := by
  cases aimed : target? base with
  | error failure =>
      rw [verify_of_target_error aimed]
      exact .error (Failure.isConfiguration_of_isOutside (isOutside_of_target_error aimed))
  | ok address =>
      rw [verify_of_target aimed]
      exact blameless_exchange _ _ _ reply

omit [Platform] in
theorem blameless_reconcile {backend : Backend} (plain : backend.Plain) (identity : Identity)
    (principal : Principal) : Blameless (reconcile identity principal backend).result := by
  intro raised failed
  have reported := reported_reconcile plain identity principal
  rw [failed] at reported
  cases reported with
  | failed caused =>
      obtain ⟨cause, stops, rfl⟩ := caused
      exact Failure.isConfiguration_of_isStorage
        (Failure.isStorage_raised (stops.isOfStore plain))

/-- A login in a backend that nothing lies in wait in never blames the configuration. -/
theorem blameless_login {backend : Backend} (clear : backend.Clear) (base : String)
    (credential : Credential) (reply : Reply) :
    Blameless (login base credential reply backend).outcome.result := by
  have exchanged := blameless_verify base credential reply
  cases verified : (verify base credential reply).result with
  | error failure =>
      rw [login_of_error backend verified]
      exact .error (exchanged failure verified)
  | ok identity =>
      rw [login_of_ok backend verified]
      exact blameless_reconcile clear.plain identity credential.principal

end FederatedLogin

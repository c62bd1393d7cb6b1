import FederatedLogin.Verification.Exchange

/-!
# Where an exchange goes

The base address alone decides where the request of an exchange goes, or why none is made.  From
there on the exchange depends on the principal and the reply; the token is in the body of the
request and nowhere else.
-/

namespace FederatedLogin.Verification

/-- The address that a request goes to, or why none is made. -/
def target? (base : String) : Except Failure Address :=
  match (Address.ofText? (Address.authenticateUrl base)).bind Address.requested? with
  | none => .error (.outside .invalidAddress)
  | some address => address.checkHost.map fun _ => address

variable [Platform] {base : String} {failure : Failure} {address : Address}

theorem verify_of_target_error (noTarget : target? base = .error failure) (credential : Credential)
    (reply : Reply) : verify base credential reply = ⟨.error failure, [], []⟩ := by
  rw [target?] at noTarget
  rw [verify]
  cases found : (Address.ofText? (Address.authenticateUrl base)).bind Address.requested? with
  | none =>
      rw [found] at noTarget
      cases noTarget
      rfl
  | some address =>
      simp only [found] at noTarget
      cases checked : address.checkHost with
      | error failure =>
          rw [checked] at noTarget
          cases noTarget
          simp only [checked]
      | ok done =>
          rw [checked] at noTarget
          cases noTarget

theorem verify_of_target (isTarget : target? base = .ok address) (credential : Credential)
    (reply : Reply) :
    let came :=
      exchange (Address.authenticateUrl base) address.isAbsolute credential.principal reply
    verify base credential reply =
      ⟨came.result, came.events, [requestTo address.text credential.token]⟩ := by
  rw [target?] at isTarget
  rw [verify]
  cases found : (Address.ofText? (Address.authenticateUrl base)).bind Address.requested? with
  | none =>
      rw [found] at isTarget
      cases isTarget
  | some other =>
      simp only [found] at isTarget
      cases checked : other.checkHost with
      | error failure =>
          rw [checked] at isTarget
          cases isTarget
      | ok done =>
          rw [checked] at isTarget
          cases isTarget
          simp only [checked]

omit [Platform] in
/-- No request is made for reasons that lie outside the family of failures. -/
theorem isOutside_of_target_error (noTarget : target? base = .error failure) :
    failure.isOutside := by
  rw [target?] at noTarget
  cases found : (Address.ofText? (Address.authenticateUrl base)).bind Address.requested? with
  | none =>
      rw [found] at noTarget
      cases noTarget
      rfl
  | some address =>
      simp only [found, Address.checkHost] at noTarget
      split at noTarget
      · cases checked : HostName.check address.host with
        | error fault =>
            rw [checked] at noTarget
            cases noTarget
            rfl
        | ok done =>
            rw [checked] at noTarget
            cases noTarget
      · cases noTarget

/-! ## Responses -/

theorem judge_of_le {status : Int} (principal : Principal) (unavailable : 500 ≤ status)
    (body : List UInt8) :
    let text := Text.Utf8.decodeReplacing body
    judge principal status body =
      ⟨.error (.serviceUnavailable status text),
        [.serviceFailed principal status (String.ofList (text.toList.take loggedLength))]⟩ := by
  intro text
  rw [judge, if_pos unavailable]

/-- Whether tokens can be posted below a base address: there is an address to post them to, and it
names a host. -/
def isService (base : String) : Bool :=
  match target? base with
  | .ok address => address.isAbsolute
  | .error _ => false

/-- A response from a service is judged. -/
theorem exists_verify_response (service : isService base) (credential : Credential) (status : Int)
    (body : List UInt8) :
    let judged := judge credential.principal status body
    ∃ requests, verify base credential (.response status body) =
      ⟨judged.result, judged.events, requests⟩ := by
  intro judged
  rw [isService] at service
  cases aimed : target? base with
  | error failure =>
      rw [aimed] at service
      cases service
  | ok address =>
      simp only [aimed] at service
      refine ⟨[requestTo address.text credential.token], ?_⟩
      simp only [verify_of_target aimed, exchange, Reply.starts, service, Bool.not_true,
        Bool.and_false, Bool.false_eq_true, if_false, judged]

theorem result_verify_response (service : isService base) (credential : Credential) (status : Int)
    (body : List UInt8) :
    (verify base credential (.response status body)).result =
      (judge credential.principal status body).result := by
  obtain ⟨requests, verified⟩ := exists_verify_response service credential status body
  rw [verified]

theorem events_verify_response (service : isService base) (credential : Credential) (status : Int)
    (body : List UInt8) :
    (verify base credential (.response status body)).events =
      (judge credential.principal status body).events := by
  obtain ⟨requests, verified⟩ := exists_verify_response service credential status body
  rw [verified]

/-- Elsewhere no response is judged, and the trouble lies outside the family of failures. -/
theorem result_verify_of_not_service (noService : isService base = false) (credential : Credential)
    (status : Int) (body : List UInt8) :
    ∃ failure, (verify base credential (.response status body)).result = .error failure ∧
      failure.isOutside := by
  rw [isService] at noService
  cases aimed : target? base with
  | error failure =>
      exact ⟨failure, by rw [verify_of_target_error aimed], isOutside_of_target_error aimed⟩
  | ok address =>
      simp only [aimed] at noService
      refine ⟨.outside .relativeAddress, ?_, rfl⟩
      simp only [verify_of_target aimed, exchange, Reply.starts, noService, Bool.not_false,
        Bool.and_true, if_true]

end FederatedLogin.Verification

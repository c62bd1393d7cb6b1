import FederatedLogin.Platform.Standard
import FederatedLogin.Proofs.Verification.Endpoint

/-!
# Whom tokens are sent to

The origin of an address is its scheme, its user information, its host and the port at which the
host is reached.  It says who receives a request, and in whose name.

Neither what happens at the end of an address nor a second reading of its text touches the origin.
So a token that is sent at all is sent to the origin of the base address.
-/

namespace FederatedLogin.Address

open FederatedLogin.Text

/-- The port at which the host of an address is reached: the one that it names, or the default of
its scheme. -/
def effectivePort? (address : Address) : Option Int :=
  address.port.or (defaultPort? address.scheme)

/-- Addresses that lead to one host in the same way.  The case of letters does not count in the name
of a host. -/
structure SameOrigin (first second : Address) : Prop where
  scheme : first.scheme = second.scheme
  userinfo : first.userinfo = second.userinfo
  host : first.host.map Char.toLower = second.host.map Char.toLower
  effectivePort : first.effectivePort? = second.effectivePort?

namespace SameOrigin

variable {first second third : Address}

theorem trans (before : first.SameOrigin second) (after : second.SameOrigin third) :
    first.SameOrigin third := by
  constructor
  · exact before.scheme.trans after.scheme
  · exact before.userinfo.trans after.userinfo
  · exact before.host.trans after.host
  · exact before.effectivePort.trans after.effectivePort

/-- What stands last in an address is no part of its origin. -/
theorem mapEnd (change : List Char → List Char) (address : Address) :
    (address.mapEnd change).SameOrigin address := by
  obtain ⟨scheme, userinfo, host, port, path, query, fragment⟩ := address
  cases fragment with
  | some fragment => exact ⟨rfl, rfl, rfl, rfl⟩
  | none => cases query <;> exact ⟨rfl, rfl, rfl, rfl⟩

theorem map_toLower_again (host : List Char) :
    (Host.again host).map Char.toLower = host.map Char.toLower := by
  rw [Host.again]
  split
  · rfl
  · exact map_toLower_map_toLower host

/-- A port that is left out because it is the default is still the one that counts. -/
theorem effectivePort?_again (address : Address) :
    address.again.effectivePort? = address.effectivePort? := by
  simp only [effectivePort?, again]
  split
  · next isDefault =>
      rw [isDefault, Option.none_or, Option.or_self]
  · rfl

/-- An address that is read again has the origin that it had. -/
theorem again (address : Address) : address.again.SameOrigin address := by
  constructor
  · rfl
  · rfl
  · exact map_toLower_again address.host
  · exact effectivePort?_again address

end SameOrigin

end FederatedLogin.Address

namespace FederatedLogin.Verification

open FederatedLogin.Text

variable {written resolved : String} {base target : Address}

/-- The address that tokens are posted to is the endpoint of the base address, read again. -/
theorem eq_again_of_ofText? (admitted : Address.serviceUrl written = .ok resolved)
    (isBase : Address.ofText? (strip written) = some base)
    (isTarget : Address.ofText? (Address.authenticateUrl resolved) = some target) :
    target = base.endpoint.again := by
  rw [ofText?_authenticateUrl admitted isBase, Option.ite_none_left_eq_some] at isTarget
  exact (Option.some.inj isTarget.2).symm

/-- Nothing is posted where there is no address to post to. -/
theorem requests_of_no_address [Platform]
    (noAddress : Address.ofText? (Address.authenticateUrl resolved) = none)
    (credential : Credential) (reply : Reply) :
    (verify resolved credential reply).requests = [] := by
  have noTarget : target? resolved = .error (.outside .invalidAddress) := by
    rw [target?, noAddress]
    rfl
  rw [verify_of_target_error noTarget]

/-- Below a base address that is admitted, tokens are posted to its origin or nowhere; and nowhere
only because the text of the address to post to has become too long. -/
theorem posts_only_to_origin_of_base [Platform]
    (admitted : Address.serviceUrl written = .ok resolved) :
    ∃ base, Address.ofText? (strip written) = some base ∧
      (∀ target, Address.ofText? (Address.authenticateUrl resolved) = some target →
        target.SameOrigin base) ∧
      (Address.ofText? (Address.authenticateUrl resolved) = none ↔
        Address.maxLength < (Address.authenticateUrl resolved).length) ∧
      ∀ credential reply, ∀ request ∈ (verify resolved credential reply).requests,
        ∃ target, Address.ofText? (Address.authenticateUrl resolved) = some target ∧
          request = requestTo target.text credential.token := by
  obtain ⟨base, isBase⟩ := Address.exists_base_of_serviceUrl admitted
  have parsed := ofText?_authenticateUrl admitted isBase
  refine ⟨base, isBase, ?_, ?_, ?_⟩
  · intro target isTarget
    rw [eq_again_of_ofText? admitted isBase isTarget]
    exact (Address.SameOrigin.again base.endpoint).trans (.mapEnd _ base)
  · rw [parsed]
    split
    · next tooLong => simp [tooLong]
    · next short => simp [short]
  · intro credential reply request requestMem
    cases isTarget : Address.ofText? (Address.authenticateUrl resolved) with
    | none =>
        rw [requests_of_no_address isTarget] at requestMem
        cases requestMem
    | some target =>
        have same := eq_again_of_ofText? admitted isBase isTarget
        subst same
        rw [verify_of_target (target?_of_endpoint admitted isBase isTarget)] at requestMem
        exact ⟨base.endpoint.again, rfl, List.mem_singleton.mp requestMem⟩

section

open scoped Platform

/-- A base with user information that hides an at-sign, a literal host, the default port of a scheme
in upper case, and a query. -/
theorem posts_only_to_origin_of_hidden_at_sign :
    let written := " HTTP://user@evil.example.com@[FE80::1]:80?next=@other.example.com/ "
    let resolved := "http://user%40evil.example.com@[FE80::1]:80?next=@other.example.com"
    Address.serviceUrl written = .ok resolved ∧
      ∃ base, Address.ofText? (strip written) = some base ∧
        base.userinfo = "user%40evil.example.com".toList ∧ base.host = "FE80::1".toList ∧
        ∀ target, Address.ofText? (Address.authenticateUrl resolved) = some target →
          target.SameOrigin base := by
  intro written resolved
  have admitted : Address.serviceUrl written = .ok resolved := by
    decide +kernel
  obtain ⟨base, isBase, posts, _⟩ := posts_only_to_origin_of_base admitted
  have parts : (Address.ofText? (strip written)).map (fun base => (base.userinfo, base.host)) =
      some ("user%40evil.example.com".toList, "FE80::1".toList) := by
    decide +kernel
  rw [isBase, Option.map_some, Option.some.injEq, Prod.mk.injEq] at parts
  exact ⟨admitted, base, isBase, parts.1, parts.2, posts⟩

end

end FederatedLogin.Verification

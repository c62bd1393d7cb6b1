import FederatedLogin.Platform.Standard
import FederatedLogin.Proofs.Address.Service
import FederatedLogin.Proofs.Verification.Exchange

/-!
# Where logins go

A login posts its token below the path of the base address exactly if the base has neither a query
nor a fragment, and if the text of the address is not too long.  Else nothing is posted, or it is
posted to the path of the base itself.
-/

namespace FederatedLogin.Verification

open FederatedLogin.Text

variable {written resolved : String} {base : Address}

/-- Tokens are posted to the endpoint of the base address, if its text is not too long. -/
theorem ofText?_authenticateUrl (admitted : Address.serviceUrl written = .ok resolved)
    (isBase : Address.ofText? (strip written) = some base) :
    Address.ofText? (Address.authenticateUrl resolved) =
      if Address.maxLength < (Address.authenticateUrl resolved).length then none
      else some base.endpoint.again := by
  have normal := Address.isNormal_of_serviceUrl admitted isBase
  obtain ⟨_, _, _, rfl⟩ := Address.of_serviceUrl admitted isBase
  rw [Address.ofText?, ← String.length_toList, normal.toList_authenticateUrl,
    normal.endpoint.ofChars?_chars]

/-- A request to the endpoint is never refused, if its text is an address. -/
theorem target?_of_endpoint (admitted : Address.serviceUrl written = .ok resolved)
    (isBase : Address.ofText? (strip written) = some base)
    (isTarget : Address.ofText? (Address.authenticateUrl resolved) = some base.endpoint.again) :
    target? resolved = .ok base.endpoint.again := by
  have normal := Address.isNormal_of_serviceUrl admitted isBase
  obtain ⟨_, named, checked, _⟩ := Address.of_serviceUrl admitted isBase
  have sameHost : base.endpoint.host = base.host := Address.host_mapEnd _ base
  obtain ⟨host, isHost⟩ := Address.exists_host_of_ofChars? isBase
  have inOrder : base.endpoint.again.checkHost = .ok () := by
    rw [Address.checkHost_again (sameHost ▸ named) (sameHost ▸ isHost), Address.checkHost_endpoint,
      checked]
  have requested : base.endpoint.again.requested? = some base.endpoint.again := by
    rw [Address.requested?, if_pos normal.endpoint.isAbsolute_again]
  rw [target?, isTarget, Option.bind_some, requested]
  simp only [inOrder, Except.map]

section

variable [Platform]

/-- Every login posts its token below the path of the base address exactly if the base has neither a
query nor a fragment, and the text of the address to post to is not too long. -/
theorem posts_below_base_iff (admitted : Address.serviceUrl written = .ok resolved)
    (isBase : Address.ofText? (strip written) = some base) :
    (∃ target, Address.ofText? (Address.authenticateUrl resolved) = some target ∧
        target.path = dropEndWhile (· == '/') base.path ++ Address.authenticatePath.toList ∧
        ∀ credential reply, (verify resolved credential reply).requests =
          [requestTo target.text credential.token]) ↔
      base.query = none ∧ base.fragment = none ∧
        (Address.authenticateUrl resolved).length ≤ Address.maxLength := by
  have parsed := ofText?_authenticateUrl admitted isBase
  have path_eq : base.endpoint.again.path = base.endpoint.path := rfl
  constructor
  · rintro ⟨target, isTarget, below, _⟩
    rw [parsed, Option.ite_none_left_eq_some] at isTarget
    obtain ⟨short, same⟩ := isTarget
    cases same
    rw [path_eq, Address.path_endpoint_eq_iff] at below
    exact ⟨below.1, below.2, Nat.le_of_not_lt short⟩
  · rintro ⟨noQuery, noFragment, short⟩
    rw [if_neg (Nat.not_lt.mpr short)] at parsed
    refine ⟨base.endpoint.again, parsed, ?_, ?_⟩
    · rw [path_eq]
      exact (Address.path_endpoint_eq_iff base).mpr ⟨noQuery, noFragment⟩
    · intro credential reply
      rw [verify_of_target (target?_of_endpoint admitted isBase parsed)]

end

section

open scoped Platform

theorem posts_below_plain_base :
    ∃ target, Address.ofText? (Address.authenticateUrl "http://verify.example.com/base") =
        some target ∧
      target.path = "/base/authenticate/token".toList ∧
      ∀ credential reply, (verify "http://verify.example.com/base" credential reply).requests =
        [requestTo target.text credential.token] := by
  have admitted : Address.serviceUrl " http://verify.example.com/a/../base// " =
      .ok "http://verify.example.com/base" := by
    decide +kernel
  have isBase : Address.ofText? (strip " http://verify.example.com/a/../base// ") =
      some ⟨"http".toList, [], "verify.example.com".toList, none, "/base//".toList, none, none⟩ := by
    decide +kernel
  exact (posts_below_base_iff admitted isBase).mpr ⟨rfl, rfl, by decide +kernel⟩

end

/-- The path of authentication ends up in the query, and the token is posted to the base itself. -/
theorem posts_beside_base_with_query :
    ∃ resolved base target,
      Address.serviceUrl "http://verify.example.com/base?tenant=1" = .ok resolved ∧
      Address.ofText? (strip "http://verify.example.com/base?tenant=1") = some base ∧
      Address.ofText? (Address.authenticateUrl resolved) = some target ∧
      base.path = "/base".toList ∧ target.path = "/base".toList ∧
      target.path ≠ dropEndWhile (· == '/') base.path ++ Address.authenticatePath.toList ∧
      target.query = some "tenant=1/authenticate/token".toList := by
  refine ⟨"http://verify.example.com/base?tenant=1",
    ⟨"http".toList, [], "verify.example.com".toList, none, "/base".toList,
      some "tenant=1".toList, none⟩,
    ⟨"http".toList, [], "verify.example.com".toList, none, "/base".toList,
      some "tenant=1/authenticate/token".toList, none⟩, ?_⟩
  decide +kernel

end FederatedLogin.Verification

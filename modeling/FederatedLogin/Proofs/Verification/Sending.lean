import FederatedLogin.Platform.Standard
import FederatedLogin.Proofs.Json.RoundTrip
import FederatedLogin.Proofs.Verification.Origin

/-!
# What the service receives

Where a request can be built, the service receives one, whatever the reply.  Its body is read again
as the object that asks for the verification of the token, so it holds the token, every character of
it, and nothing that the token could have put there besides.
-/

namespace FederatedLogin.Verification

open FederatedLogin.Json FederatedLogin.Text

variable {base : String} {address target : Address}

/-! ## The body -/

theorem requestFor_legible (token : String) : (requestFor token).Legible 2 := by
  have spec : (Value.record [("token", .text token)]).Legible 1 :=
    .record (List.forall_mem_singleton.mpr (.text 0 token))
  refine .record ?_
  simp only [List.forall_mem_cons]
  exact ⟨.text 1 _, .text 1 _, spec, List.forall_mem_nil _⟩

section

variable [Platform]

/-- The body of a request is read again as the object that it was written for. -/
theorem ofBytes?_requestBody (token : String) :
    Value.ofBytes? (Utf8.encode (requestBody token)) = some (requestFor token) :=
  Value.ofBytes?_encode_print Layout.compact_separates (requestFor_legible token)
    two_le_nestingLimit

/-- Two tokens never have one body. -/
theorem requestBody_eq_iff {token other : String} :
    requestBody token = requestBody other ↔ token = other := by
  constructor
  · intro same
    have sameObject : some (requestFor token) = some (requestFor other) := by
      rw [← ofBytes?_requestBody, same, ofBytes?_requestBody]
    simpa [requestFor, Value.record, Value.text, CodePoint.ofText_inj] using sameObject
  · exact congrArg requestBody

/-! ## The request -/

omit [Platform] in
/-- A request can be built for an address if it is not too long for what it is taken relative to,
and if its host is in order. -/
theorem target?_eq_ok_iff (parsed : Address.ofText? (Address.authenticateUrl base) = some address) :
    target? base = .ok target ↔ address.requested? = some target ∧ target.checkHost = .ok () := by
  rw [target?, parsed, Option.bind_some]
  cases address.requested? with
  | none => simp
  | some requested =>
      simp only [Option.some.injEq]
      cases checked : requested.checkHost with
      | error failure =>
          constructor
          · intro isTarget
            cases isTarget
          · rintro ⟨rfl, inOrder⟩
            rw [checked] at inOrder
            cases inOrder
      | ok done =>
          constructor
          · intro isTarget
            cases isTarget
            exact ⟨rfl, checked⟩
          · rintro ⟨rfl, _⟩
            rfl

/-- What is sent for a credential is its token. -/
theorem body_of_mem_verify {credential : Credential} {reply : Reply} {sent : Request}
    (sentMem : sent ∈ (verify base credential reply).requests) :
    sent.body = requestBody credential.token := by
  cases aimed : target? base with
  | error failure =>
      rw [verify_of_target_error aimed] at sentMem
      cases sentMem
  | ok target =>
      rw [verify_of_target aimed, List.mem_singleton] at sentMem
      rw [sentMem]
      rfl

/-- Where a request can be built, the service receives exactly one: it is posted to the address, in
JSON, and its body is the object that asks for the token and for nothing else, so no other token has
that body.  Where none can be built, the service receives nothing; a base address that was admitted
is not among these. -/
theorem token_sent_in_one_request
    (parsed : Address.ofText? (Address.authenticateUrl base) = some address)
    (credential : Credential) (reply : Reply) :
    (∀ target, address.requested? = some target → target.checkHost = .ok () →
      ∃ request, (verify base credential reply).requests = [request] ∧
        request.method = "POST" ∧ request.contentType = "application/json" ∧
        request.url = target.text ∧
        Value.ofBytes? (Utf8.encode request.body) = some (.record
          [("apiVersion", .text "authentication.k8s.io/v1"), ("kind", .text "TokenReview"),
           ("spec", .record [("token", .text credential.token)])]) ∧
        ∀ other otherReply, ∀ sent ∈ (verify base other otherReply).requests,
          sent.body = request.body ↔ other.token = credential.token) ∧
    ((∀ target, address.requested? = some target → target.checkHost ≠ .ok ()) →
      (verify base credential reply).requests = []) ∧
    (∀ written, Address.serviceUrl written = .ok base →
      address.requested? = some address ∧ address.checkHost = .ok ()) := by
  refine ⟨?_, ?_, ?_⟩
  · intro target requested inOrder
    have isTarget := (target?_eq_ok_iff parsed).mpr ⟨requested, inOrder⟩
    refine ⟨requestTo target.text credential.token, ?_, rfl, rfl, rfl,
      ofBytes?_requestBody credential.token, ?_⟩
    · rw [verify_of_target isTarget]
    · intro other otherReply sent sentMem
      rw [verify_of_target isTarget] at sentMem
      rw [List.mem_singleton.mp sentMem]
      exact requestBody_eq_iff
  · intro noTarget
    cases aimed : target? base with
    | error failure => rw [verify_of_target_error aimed]
    | ok target =>
        obtain ⟨requested, inOrder⟩ := (target?_eq_ok_iff parsed).mp aimed
        exact absurd inOrder (noTarget target requested)
  · intro written admitted
    obtain ⟨origin, isBase⟩ := Address.exists_base_of_serviceUrl admitted
    have same := eq_again_of_ofText? admitted isBase parsed
    subst same
    exact (target?_eq_ok_iff parsed).mp (target?_of_endpoint admitted isBase parsed)

end

section

open scoped Platform

/-- A token with a quote, a backslash, controls, characters beyond ASCII and beyond U+FFFF, and the
looks of a member. -/
theorem odd_token_sent_in_one_request :
    let token := "\",\"kind\":\\\x00\x1f\x7f\u2028😀\x7d\x7d"
    ∃ address, Address.ofText? (Address.authenticateUrl "http://verify.example.com") =
        some address ∧
      ∃ request, (verify "http://verify.example.com" ⟨.named "p", token⟩
          (.requestFailed .reading "ReadTimeout" "timed out")).requests = [request] ∧
        request.url = "http://verify.example.com/authenticate/token" ∧
        Value.ofBytes? (Utf8.encode request.body) = some (.record
          [("apiVersion", .text "authentication.k8s.io/v1"), ("kind", .text "TokenReview"),
           ("spec", .record [("token", .text token)])]) := by
  intro token
  have parsed : Address.ofText? (Address.authenticateUrl "http://verify.example.com") =
      some ⟨"http".toList, [], "verify.example.com".toList, none, "/authenticate/token".toList,
        none, none⟩ := by
    decide +kernel
  obtain ⟨request, sent, _, _, url, body, _⟩ := (token_sent_in_one_request parsed
    ⟨.named "p", token⟩ (.requestFailed .reading "ReadTimeout" "timed out")).1 _ rfl
      (by decide +kernel)
  exact ⟨_, parsed, request, sent, url.trans (by decide +kernel), body⟩


/-- A host name that begins in Punycode and does not go on in it: the address is one, but no request
is built for it. -/
theorem nothing_sent_to_refused_host :
    (Address.ofText? (Address.authenticateUrl "http://xn--a")).isSome ∧
      (verify "http://xn--a" ⟨.named "p", "t"⟩
        (.requestFailed .sending "ConnectError" "connection refused")).requests = [] := by
  decide +kernel

end

end FederatedLogin.Verification

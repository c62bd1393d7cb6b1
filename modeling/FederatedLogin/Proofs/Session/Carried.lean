import FederatedLogin.Login.Session
import FederatedLogin.Platform.Standard
import FederatedLogin.Proofs.Json.Carried

/-!
# The verdict is the same in every encoding

Below 500 a response is judged by its status and by the document in its body.  The bytes of the body
count only as far as the document is read from them, so that it does not matter in which encoding
its text is carried.
-/

namespace FederatedLogin

open FederatedLogin.Json FederatedLogin.Text

namespace Verification

variable [Platform] {status : Int} {body other : List UInt8}

/-- Below 500 two bodies with one document get one verdict. -/
theorem judge_congr (principal : Principal) (below : status < 500)
    (same : Value.ofBytes? body = Value.ofBytes? other) :
    judge principal status body = judge principal status other := by
  have notUnavailable : ¬500 ≤ status := Int.not_le.mpr below
  simp only [judge, rejectionReason, if_neg notUnavailable, same]

theorem verify_congr (base : String) (credential : Credential) (below : status < 500)
    (same : Value.ofBytes? body = Value.ofBytes? other) :
    verify base credential (.response status body) =
      verify base credential (.response status other) := by
  have exchangedAlike (url : String) (isAbsolute : Bool) :
      exchange url isAbsolute credential.principal (.response status body) =
        exchange url isAbsolute credential.principal (.response status other) := by
    simp only [exchange, judge_congr credential.principal below same]
    rfl
  simp only [verify, exchangedAlike]

end Verification

namespace Session

section

variable [Platform]

/-- Whichever encoding carries a document, with a byte order mark or without one, its value is that
of its text, and a login or a verification that gets it below 500 takes the session to the same
state with the same record. -/
theorem encodings_make_no_difference {source : String}
    (isDocument : (Value.ofText? source).isSome) (carrier other : Encoding.Carrier)
    {status : Int} (below : status < 500) (session : Session) (credential : Credential) :
    let carried := Verification.Reply.response status (carrier.bytes source)
    let carriedOtherwise := Verification.Reply.response status (other.bytes source)
    Value.ofBytes? (carrier.bytes source) = Value.ofText? source ∧
      session.step (.login credential carried) = session.step (.login credential carriedOtherwise) ∧
      session.step (.verify credential carried) =
        session.step (.verify credential carriedOtherwise) := by
  intro carried carriedOtherwise
  have isRead := Value.ofBytes?_bytes isDocument carrier
  have same := isRead.trans (Value.ofBytes?_bytes isDocument other).symm
  have verifiedAlike : Verification.verify session.base credential carried =
      Verification.verify session.base credential carriedOtherwise :=
    Verification.verify_congr session.base credential below same
  refine ⟨isRead, ?_, ?_⟩
  · simp only [step, login, verifiedAlike]
  · simp only [step, verifiedAlike]

end

section

open scoped Platform

/-- A document behind a blank line, with a name beyond U+FFFF, in UTF-16 and in UTF-8 with mark. -/
theorem marked_login_makes_no_difference :
    let user := "\x7b\"uid\": \"u\", \"username\": \"😀\"\x7d"
    let status := "\x7b\"authenticated\": true, \"user\": " ++ user ++ "\x7d"
    let source := "\n\x7b\"status\": " ++ status ++ "\x7d"
    let session := start "http://verify.example.com" (.memory {}) (.arithmetic 1)
    let units : Encoding.Carrier := ⟨.utf16 .big, false⟩
    let bytes : Encoding.Carrier := ⟨.utf8, true⟩
    let loggedIn := session.step (.login ⟨.unnamed, "t"⟩ (.response 200 (units.bytes source)))
    (Value.ofText? source).isSome ∧ (200 : Int) < 500 ∧ loggedIn.2.result.isOk ∧
      loggedIn = session.step (.login ⟨.unnamed, "t"⟩ (.response 200 (bytes.bytes source))) := by
  intro user status source session units bytes loggedIn
  have isDocument : (Value.ofText? source).isSome := by decide +kernel
  exact ⟨isDocument, by decide, by decide +kernel,
    (encodings_make_no_difference isDocument units bytes (by decide) session _).2.1⟩

end

end Session

end FederatedLogin

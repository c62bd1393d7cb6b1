import FederatedLogin.Platform.Standard
import FederatedLogin.Proofs.Text.Utf8
import FederatedLogin.Proofs.Verification.Exchange

/-!
# The text of a failed response

From 500 on the body of a response is not looked at but kept as a text, whatever its bytes are.  The
text is faithful as far as the bytes are in order: what is broken is replaced where it stands, and
everything in front of it comes through.
-/

namespace FederatedLogin.Verification

open FederatedLogin.Text

section

variable [Platform] {base : String} {status : Int} {body : List UInt8}

/-- A service that fails carries the text of its body, and only a service does. -/
theorem result_verify_eq_unavailable_iff (credential : Credential) (unavailable : 500 ≤ status)
    {text : String} :
    (verify base credential (.response status body)).result =
        .error (.serviceUnavailable status text) ↔
      isService base ∧ Utf8.decodeReplacing body = text := by
  cases service : isService base with
  | true =>
      rw [result_verify_response service, judge_of_le _ unavailable]
      simp
  | false =>
      obtain ⟨failure, failed, outside⟩ :=
        result_verify_of_not_service service credential status body
      rw [failed]
      constructor
      · rintro ⟨⟩
        cases outside
      · rintro ⟨⟨⟩, _⟩

/-- From 500 on every response of a service, and of a service only, is a failure that carries a
text, whatever the bytes of its body.  Of the text the first 200 characters are logged.  The bytes
of a text give that text, and in front of the body they put it in front of what the body gives
alone. -/
theorem server_error_text_faithful (unavailable : 500 ≤ status) (base : String)
    (credential : Credential) :
    let answer (body : List UInt8) := verify base credential (.response status body)
    (∀ body text, (answer body).result = .error (.serviceUnavailable status text) →
      isService base) ∧
    (isService base → ∀ body, ∃ text,
      (answer body).result = .error (.serviceUnavailable status text) ∧
      (∃ event, (answer body).events = [event] ∧ event.text = "Verification service error" ∧
        event.fields.lookup "response" = some (.text (String.ofList (text.toList.take 200)))) ∧
      ∀ source,
        (answer (Utf8.encode source)).result = .error (.serviceUnavailable status source) ∧
        (answer (Utf8.encode source ++ body)).result =
          .error (.serviceUnavailable status (source ++ text))) := by
  intro answer
  have carries_iff {body : List UInt8} {text : String} :
      (answer body).result = .error (.serviceUnavailable status text) ↔
        isService base ∧ Utf8.decodeReplacing body = text :=
    result_verify_eq_unavailable_iff credential unavailable
  refine ⟨fun body text carries => (carries_iff.mp carries).1, ?_⟩
  intro service body
  refine ⟨Utf8.decodeReplacing body, carries_iff.mpr ⟨service, rfl⟩, ?_, fun source => ⟨?_, ?_⟩⟩
  · rw [events_verify_response service, judge_of_le _ unavailable]
    exact ⟨_, rfl, rfl, rfl⟩
  · exact carries_iff.mpr ⟨service, Utf8.decodeReplacing_encode source⟩
  · exact carries_iff.mpr ⟨service, Utf8.decodeReplacing_encode_append source body⟩

end

section

open scoped Platform

/-- Characters of two and four bytes in front of one that breaks off and a byte that starts none. -/
theorem broken_server_error_keeps_text :
    let answer (body : List UInt8) :=
      verify "http://verify.example.com" ⟨.unnamed, "t"⟩ (.response 503 body)
    (500 : Int) ≤ 503 ∧ isService "http://verify.example.com" ∧
      (answer [0xE2, 0x82, 0xFF]).result = .error (.serviceUnavailable 503 "\uFFFD\uFFFD") ∧
      (answer (Utf8.encode "é😀" ++ [0xE2, 0x82, 0xFF])).result =
        .error (.serviceUnavailable 503 "é😀\uFFFD\uFFFD") := by
  intro answer
  have unavailable : (500 : Int) ≤ 503 := by decide
  have service : isService "http://verify.example.com" := by decide +kernel
  have alone : (answer [0xE2, 0x82, 0xFF]).result =
      .error (.serviceUnavailable 503 "\uFFFD\uFFFD") :=
    (result_verify_eq_unavailable_iff _ unavailable).mpr ⟨service, by decide +kernel⟩
  obtain ⟨text, carries, _, behind⟩ :=
    (server_error_text_faithful unavailable "http://verify.example.com" ⟨.unnamed, "t"⟩).2 service
      [0xE2, 0x82, 0xFF]
  have text_eq : text = "\uFFFD\uFFFD" := by
    have same := carries.symm.trans alone
    simpa using same
  subst text_eq
  exact ⟨unavailable, service, alone, (behind "é😀").2⟩

end

end FederatedLogin.Verification

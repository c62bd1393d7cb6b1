import FederatedLogin.Platform.Standard
import FederatedLogin.Proofs.Verification.Exchange
import FederatedLogin.Proofs.Verification.Schema

/-!
# The verdict on a response

Every response to a request ends in a verdict: an identity, a rejection, a protocol fault, or the
report that the service is unavailable.  From 500 on the service is unavailable and below, every
status but 200 is a rejection, whatever the body.  For the status of success the body decides, and
the identity and the rejection go by the wire schema alone.
-/

namespace FederatedLogin.Verification

open FederatedLogin.Json FederatedLogin.Text

variable {base : String} {status : Int} {body : List UInt8} {principal : Principal}

/-! ## The three ranges of a status -/

theorem result_judge_of_le [Platform] (unavailable : 500 ≤ status) :
    (judge principal status body).result =
      .error (.serviceUnavailable status (Utf8.decodeReplacing body)) := by
  rw [judge_of_le principal unavailable]

theorem result_judge_of_ne [Platform] (below : status < 500) (failed : status ≠ 200) :
    (judge principal status body).result = .error (.unauthenticated (rejectionReason body)) := by
  rw [judge, if_neg (Int.not_le.mpr below), if_pos failed]

theorem result_judge_success [Platform] :
    (judge principal 200 body).result =
      match Value.ofBytes? body with
      | none => .error (.protocol .notJson)
      | some payload => (judgePayload principal 200 payload).result := by
  rw [judge, if_neg (by decide), if_neg (by decide)]
  cases Value.ofBytes? body <;> rfl

/-! ## Payloads -/

variable {payload : Value}

theorem result_judgePayload_of_asserts {identity : Identity} (asserts : Asserts payload identity) :
    (judgePayload principal status payload).result = .ok identity := by
  obtain ⟨result, read, authenticated, user⟩ := ofPayload_of_asserts asserts
  simp only [judgePayload, read, authenticated, user]

theorem result_judgePayload_of_declines {reason : Option CodeString}
    (declines : Declines payload reason) :
    (judgePayload principal status payload).result = .error (.unauthenticated reason) := by
  obtain ⟨result, read, authenticated, error⟩ := ofPayload_of_declines declines
  simp only [judgePayload, read, authenticated, error]

/-- A payload asserts an identity, or declines, or departs from the schema. -/
theorem judgePayload_cases (principal : Principal) (status : Int) (payload : Value) :
    (∃ identity, Asserts payload identity) ∨ (∃ reason, Declines payload reason) ∨
      ∃ fault, (judgePayload principal status payload).result = .error (.protocol fault) := by
  cases read : Result.ofPayload payload with
  | error fault =>
      refine .inr (.inr ⟨fault, ?_⟩)
      simp only [judgePayload, read]
  | ok result =>
      rcases ofPayload_cases read with ⟨identity, _, _, asserts⟩ | ⟨_, declines⟩
      · exact .inl ⟨identity, asserts⟩
      · exact .inr (.inl ⟨result.error, declines⟩)

theorem result_judgePayload_eq_ok_iff {identity : Identity} :
    (judgePayload principal status payload).result = .ok identity ↔ Asserts payload identity := by
  constructor
  · intro judged
    rcases judgePayload_cases principal status payload with
      ⟨asserted, asserts⟩ | ⟨reason, declines⟩ | ⟨fault, departs⟩
    · rw [result_judgePayload_of_asserts asserts, Except.ok.injEq] at judged
      exact judged ▸ asserts
    · rw [result_judgePayload_of_declines declines] at judged
      cases judged
    · rw [departs] at judged
      cases judged
  · exact result_judgePayload_of_asserts

theorem result_judgePayload_eq_unauthenticated_iff {reason : Option CodeString} :
    (judgePayload principal status payload).result = .error (.unauthenticated reason) ↔
      Declines payload reason := by
  constructor
  · intro judged
    rcases judgePayload_cases principal status payload with
      ⟨asserted, asserts⟩ | ⟨stated, declines⟩ | ⟨fault, departs⟩
    · rw [result_judgePayload_of_asserts asserts] at judged
      cases judged
    · rw [result_judgePayload_of_declines declines] at judged
      cases judged
      exact declines
    · rw [departs] at judged
      cases judged
  · exact result_judgePayload_of_declines

/-- The verdict on every response: by its status alone, or, with the status of success, an identity
exactly if the body asserts it, a rejection exactly if the body declines, and a protocol fault
otherwise. -/
theorem verdict_of_response [Platform] (service : isService base) (credential : Credential)
    (status : Int) (body : List UInt8) :
    let result := (verify base credential (.response status body)).result
    (500 ≤ status →
      result = .error (.serviceUnavailable status (Utf8.decodeReplacing body))) ∧
    (status < 500 → status ≠ 200 → ∃ reason, result = .error (.unauthenticated reason)) ∧
    (status = 200 →
      (∀ identity, result = .ok identity ↔
        ∃ payload, Value.ofBytes? body = some payload ∧ Asserts payload identity) ∧
      (∀ reason, result = .error (.unauthenticated reason) ↔
        ∃ payload, Value.ofBytes? body = some payload ∧ Declines payload reason) ∧
      ((∃ identity, result = .ok identity) ∨ (∃ reason, result = .error (.unauthenticated reason)) ∨
        ∃ fault, result = .error (.protocol fault))) := by
  intro result
  have judged : result = (judge credential.principal status body).result :=
    result_verify_response service credential status body
  rw [judged]
  refine ⟨result_judge_of_le, fun below failed => ⟨_, result_judge_of_ne below failed⟩, ?_⟩
  rintro rfl
  rw [result_judge_success]
  cases Value.ofBytes? body with
  | none =>
      refine ⟨?_, ?_, .inr (.inr ⟨.notJson, rfl⟩)⟩
      · intro identity
        simp
      · intro reason
        simp
  | some payload =>
      simp only [Option.some.injEq, exists_eq_left']
      refine ⟨?_, ?_, ?_⟩
      · intro identity
        exact result_judgePayload_eq_ok_iff
      · intro reason
        exact result_judgePayload_eq_unauthenticated_iff
      · rcases judgePayload_cases credential.principal 200 payload with
          ⟨identity, asserts⟩ | ⟨reason, declines⟩ | departs
        · exact .inl ⟨identity, result_judgePayload_of_asserts asserts⟩
        · exact .inr (.inl ⟨reason, result_judgePayload_of_declines declines⟩)
        · exact .inr (.inr departs)

/-- A status that is given twice, first declining and then asserting, with groups that count as
nothing and an attribute that is given twice. -/
def repeatedBody : List UInt8 :=
  let declining := "\x7b\"authenticated\": false\x7d"
  let user := "\x7b\"uid\": \"u\", \"groups\": 0, \"extra\": \x7b\"k\": 1, \"k\": [\"v\"]\x7d\x7d"
  let asserting := "\x7b\"authenticated\": true, \"user\": " ++ user ++ "\x7d"
  ("\x7b\"status\": " ++ declining ++ ", \"status\": " ++ asserting ++ "\x7d").toUTF8.toList

section

open scoped Platform

theorem repeatedBody_asserts :
    isService "http://verify.example.com" ∧
      ∃ payload, Value.ofBytes? repeatedBody = some payload ∧
        Asserts payload { uid := "u", username := [], extra := [("k", ["v"])] } := by
  have service : isService "http://verify.example.com" := by decide +kernel
  have verdict := verdict_of_response service ⟨.unnamed, "t"⟩ 200 repeatedBody
  refine ⟨service, (verdict.2.2 rfl).1 _ |>.mp ?_⟩
  decide +kernel

end

end FederatedLogin.Verification

import FederatedLogin.Platform.Standard
import FederatedLogin.Proofs.Login.Principal
import FederatedLogin.Proofs.Session.Advance

/-!
# Tokens and principals stay where they belong

Two runs are alike when they differ at most in the tokens and the principals of their steps.  Then
they answer alike and leave the same rows, their requests differ at most in the token that the body
asks about, and their events at most in the value under the name of the principal; where a request
holds a token or an event a principal, it is that of its own step.

One step preserves this because an exchange goes on with the principal alone, and reconciliation
hands the principal to events and to nothing else.
-/

namespace FederatedLogin.Session

open FederatedLogin.Store FederatedLogin.Verification

/-- The principal of a step. -/
def Step.principal? : Step → Option Principal
  | .login credential _ | .verify credential _ => some credential.principal
  | .reconcile _ principal => some principal
  | _ => none

/-- The token of a step. -/
def Step.token? : Step → Option String
  | .login credential _ | .verify credential _ => some credential.token
  | _ => none

/-- Steps that differ at most in their token and their principal. -/
inductive Step.Alike : Step → Step → Prop where
  | login (credential other : Credential) (reply : Reply) :
      Alike (.login credential reply) (.login other reply)
  | verify (credential other : Credential) (reply : Reply) :
      Alike (.verify credential reply) (.verify other reply)
  | reconcile (identity : Identity) (principal other : Principal) :
      Alike (.reconcile identity principal) (.reconcile identity other)
  | direct (step : Step) (unnamed : step.principal? = none) : Alike step step

/-- Fields of one name.  They are equal, but the field of the principal holds that of its own
step. -/
structure FieldsAlike (step other : Step) (field another : String × FieldValue) : Prop where
  name : field.1 = another.1
  value : if field.1 = "principal" then
      some field.2 = step.principal?.map FieldValue.principal ∧
        some another.2 = other.principal?.map FieldValue.principal
    else field.2 = another.2

/-- Events of two steps that differ at most in the principal. -/
structure EventsAlike (step other : Step) (event another : Event) : Prop where
  level : event.level = another.level
  text : event.text = another.text
  fields : List.Forall₂ (FieldsAlike step other) event.fields another.fields

/-- Requests of two steps that differ at most in the token that the body asks about. -/
structure RequestsAlike (step other : Step) (request another : Request) : Prop where
  method : request.method = another.method
  url : request.url = another.url
  contentType : request.contentType = another.contentType
  body : some request.body = step.token?.map requestBody
  anotherBody : some another.body = other.token?.map requestBody

/-- Records of two steps that tell nothing about their tokens, and about their principals only what
is logged under that name. -/
structure EntriesAlike (step other : Step) (entry another : Entry) : Prop where
  result : entry.result = another.result
  rows : entry.rows = another.rows
  requests : Option.Rel (List.Forall₂ (RequestsAlike step other)) entry.requests another.requests
  events : List.Forall₂ (EventsAlike step other) entry.events another.events

variable {step other : Step} {principal another : Principal}

/-! ## Events -/

theorem fieldsAlike_withPrincipal (own : step.principal? = some principal)
    (otherOwn : other.principal? = some another) (field : String × FieldValue) :
    FieldsAlike step other (FieldValue.withPrincipal principal field)
      (FieldValue.withPrincipal another field) := by
  by_cases named : field.1 = "principal"
  · simp only [FieldValue.withPrincipal, named, if_true]
    exact ⟨rfl, by simp [own, otherOwn]⟩
  · simp only [FieldValue.withPrincipal, named, if_false]
    exact ⟨rfl, by simp [named]⟩

/-- Events under the principals of two steps are alike. -/
theorem eventsAlike_withPrincipal (own : step.principal? = some principal)
    (otherOwn : other.principal? = some another) (events : List Event) :
    List.Forall₂ (EventsAlike step other) (events.map (Event.withPrincipal principal))
      (events.map (Event.withPrincipal another)) := by
  rw [List.forall₂_map_left_iff, List.forall₂_map_right_iff, List.forall₂_same]
  intro event _
  refine ⟨by simp, by simp, ?_⟩
  rw [Event.fields_withPrincipal, Event.fields_withPrincipal, List.forall₂_map_left_iff,
    List.forall₂_map_right_iff, List.forall₂_same]
  intro field _
  exact fieldsAlike_withPrincipal own otherOwn field

/-- Events that become each other under the principals of two steps are alike. -/
theorem eventsAlike_of_map (own : step.principal? = some principal)
    (otherOwn : other.principal? = some another) {events others : List Event}
    (toOther : events.map (Event.withPrincipal another) = others)
    (toOwn : others.map (Event.withPrincipal principal) = events) :
    List.Forall₂ (EventsAlike step other) events others := by
  have settled : others.map (Event.withPrincipal another) = others := by
    rw [← toOther, List.map_map]
    apply List.map_congr_left
    intro event _
    exact Event.withPrincipal_withPrincipal another another event
  have both := eventsAlike_withPrincipal own otherOwn others
  rwa [toOwn, settled] at both

/-- Events without fields of a principal are like themselves. -/
theorem eventsAlike_refl {events : List Event}
    (unnamed : ∀ event ∈ events, event.Unnamed) :
    List.Forall₂ (EventsAlike step other) events events := by
  rw [List.forall₂_same]
  intro event eventMem
  refine ⟨rfl, rfl, ?_⟩
  rw [List.forall₂_same]
  intro field fieldMem
  exact ⟨rfl, by rw [if_neg (unnamed event eventMem field fieldMem)]⟩

/-! ## Steps -/

variable {session : Session}

/-- Outcomes that become each other under the principals of two steps give sessions that are the
same and records that are alike. -/
theorem after_alike {α : Type} {answer : α → Answer} {outcome otherOutcome : Outcome α}
    {requests otherRequests : Option (List Request)} (own : step.principal? = some principal)
    (otherOwn : other.principal? = some another)
    (toOther : outcome.withPrincipal another = otherOutcome)
    (toOwn : otherOutcome.withPrincipal principal = outcome)
    (requestsAlike : Option.Rel (List.Forall₂ (RequestsAlike step other)) requests otherRequests) :
    (session.after outcome answer requests).1 =
        (session.after otherOutcome answer otherRequests).1 ∧
      EntriesAlike step other (session.after outcome answer requests).2
        (session.after otherOutcome answer otherRequests).2 := by
  have sameResult : outcome.result = otherOutcome.result := by
    rw [← toOther]
    rfl
  have sameBackend : outcome.backend = otherOutcome.backend := by
    rw [← toOther]
    rfl
  refine ⟨?_, ?_, ?_, requestsAlike, ?_⟩
  · simp only [after, sameBackend]
  · simp only [after, sameResult]
  · simp only [after, sameBackend]
  · exact eventsAlike_of_map own otherOwn (congrArg Outcome.events toOther)
      (congrArg Outcome.events toOwn)

section

variable [Platform]

/-- The requests of a verification ask about the token of its own credential. -/
theorem requests_verify_alike (base : String) (credential another : Credential) (reply : Reply)
    (own : step.token? = some credential.token) (otherOwn : other.token? = some another.token) :
    List.Forall₂ (RequestsAlike step other) (verify base credential reply).requests
      (verify base another reply).requests := by
  cases aimed : target? base with
  | error failure =>
      rw [verify_of_target_error aimed, verify_of_target_error aimed]
      exact .nil
  | ok address =>
      rw [verify_of_target aimed, verify_of_target aimed]
      refine .cons ⟨rfl, rfl, rfl, ?_, ?_⟩ .nil
      · rw [own]
        rfl
      · rw [otherOwn]
        rfl

/-- A step without a principal makes no requests. -/
theorem requests_of_unnamed (session : Session) (unnamed : step.principal? = none) :
    (session.step step).2.requests = none := by
  cases step with
  | login credential reply => cases unnamed
  | verify credential reply => cases unnamed
  | reconcile identity principal => cases unnamed
  | _ => rfl

/-- A step without a principal logs none. -/
theorem events_of_unnamed (session : Session) (unnamed : step.principal? = none) :
    ∀ event ∈ (session.step step).2.events, event.Unnamed := by
  cases step with
  | login credential reply => cases unnamed
  | verify credential reply => cases unnamed
  | reconcile identity principal => cases unnamed
  | create user => exact unnamed_create session.backend user
  | update user => exact unnamed_update session.backend user
  | find key => exact unnamed_find session.backend key
  | size =>
      intro event eventMem
      cases eventMem
  | createSchema =>
      intro event eventMem
      cases eventMem
  | plant operation ambush =>
      intro event eventMem
      cases eventMem

theorem step_alike (session : Session) (alike : Step.Alike step other) :
    (session.step step).1 = (session.step other).1 ∧
      EntriesAlike step other (session.step step).2 (session.step other).2 := by
  cases alike with
  | login credential another reply =>
      apply after_alike rfl rfl
      · exact withPrincipal_login session.base credential another reply session.backend
      · exact withPrincipal_login session.base another credential reply session.backend
      · rw [requests_login, requests_login]
        exact .some (requests_verify_alike session.base credential another reply rfl rfl)
  | verify credential another reply =>
      have same := result_verify session.base credential another reply
      apply after_alike rfl rfl
      · rw [Outcome.withPrincipal, same, map_events_verify]
      · rw [Outcome.withPrincipal, same, map_events_verify]
      · exact .some (requests_verify_alike session.base credential another reply rfl rfl)
  | reconcile identity principal another =>
      apply after_alike rfl rfl
      · exact withPrincipal_reconcile identity session.backend
      · exact withPrincipal_reconcile identity session.backend
      · exact .none
  | direct step unnamed =>
      refine ⟨rfl, rfl, rfl, ?_, ?_⟩
      · rw [requests_of_unnamed session unnamed]
        exact .none
      · exact eventsAlike_refl (events_of_unnamed session unnamed)

/-- Over any two runs of one session that differ at most in the tokens and the principals of their
steps, the sessions end the same and the records are alike, step by step. -/
theorem tokens_and_principals_stay_apart (session : Session) {steps others : List Step}
    (alike : List.Forall₂ Step.Alike steps others) :
    (session.run steps).1 = (session.run others).1 ∧
      List.Forall₂ (fun record another => EntriesAlike record.1 another.1 record.2 another.2)
        (session.transcript steps) (session.transcript others) := by
  induction alike generalizing session with
  | nil => exact ⟨rfl, .nil⟩
  | cons first _ ih =>
      obtain ⟨sameSession, entriesAlike⟩ := step_alike session first
      rw [run_cons, run_cons, transcript_cons, transcript_cons, sameSession]
      obtain ⟨sameEnd, restAlike⟩ := ih (session.step _).1
      exact ⟨sameEnd, .cons entriesAlike restAlike⟩

end

section

open scoped Platform

/-- A rejected login, a rejected verification and a reconciliation that enrolls, each with
credentials of its own. -/
theorem alike_logins_end_the_same :
    let session := start "http://verify.example.com" Kind.memory.empty (RandomSource.arithmetic 0)
    let steps : List Step := [.login ⟨.named "alice", "secret"⟩ (.response 401 []),
      .verify ⟨.named "alice", "secret"⟩ (.response 200 []),
      .reconcile { uid := "u", username := "n" } .unnamed]
    let others : List Step := [.login ⟨.unnamed, "other"⟩ (.response 401 []),
      .verify ⟨.named "bob", "secret"⟩ (.response 200 []),
      .reconcile { uid := "u", username := "n" } (.named "bob")]
    List.Forall₂ Step.Alike steps others ∧
      (session.run steps).1 = (session.run others).1 ∧
      List.Forall₂ (fun record another => EntriesAlike record.1 another.1 record.2 another.2)
        (session.transcript steps) (session.transcript others) := by
  intro session steps others
  have alike : List.Forall₂ Step.Alike steps others :=
    .cons (.login _ _ _) (.cons (.verify _ _ _) (.cons (.reconcile _ _ _) .nil))
  exact ⟨alike, tokens_and_principals_stay_apart session alike⟩

end

end FederatedLogin.Session

import FederatedLogin.Proofs.Session.Advance

/-!
# Which steps make users

A login or a reconciliation that makes a user logs it, and no part of it logs so otherwise.  So the
record of a step tells whose user the step has made.
-/

namespace FederatedLogin

open FederatedLogin.Text

/-- Whether an event tells that a login has made a user. -/
def Event.isEnrollment : Event → Bool
  | .userCreated .. => true
  | _ => false

/-- The federation key of an identity, if events tell that its user was made. -/
def enrolled (identity : Identity) (events : List Event) : List CodeString :=
  if events.any Event.isEnrollment then [identity.uid] else []

variable {identity : Identity} {principal : Principal} {backend : Backend}

theorem mem_enrolled_iff {uid : CodeString} {events : List Event} :
    uid ∈ enrolled identity events ↔ uid = identity.uid ∧ events.any Event.isEnrollment := by
  by_cases told : events.any Event.isEnrollment
  · simp [enrolled, told]
  · simp [enrolled, told]

/-- Events that come before tell of no fewer users. -/
theorem enrolled_append_subset (made : List CodeString) (identity : Identity)
    (before events : List Event) :
    enrolled identity events ++ made ⊆ enrolled identity (before ++ events) ++ made := by
  apply List.append_subset.mpr
  constructor
  · intro uid uidMem
    obtain ⟨isOwn, told⟩ := mem_enrolled_iff.mp uidMem
    apply List.mem_append_left
    apply mem_enrolled_iff.mpr
    exact ⟨isOwn, by rw [List.any_append, told, Bool.or_true]⟩
  · exact List.subset_append_right _ _

/-! ## Reconciliations -/

theorem untold_create (backend : Backend) (user : User) :
    (backend.create user).events.any Event.isEnrollment = false := by
  rw [Backend.create]
  split
  · rfl
  · split <;> rfl

/-- The report of a failure does not tell of a user. -/
theorem told_failed {α : Type} (uid : CodeString) (failure : Failure) (events : List Event) :
    (Outcome.failed principal uid failure events backend : Outcome α).events.any
        Event.isEnrollment = events.any Event.isEnrollment := by
  cases failure <;> simp [Outcome.failed, reportStoreFailure, Event.isEnrollment]

theorem told_enroll_iff :
    (enroll identity principal backend).events.any Event.isEnrollment ↔
      ∃ user, (enroll identity principal backend).result = .ok user := by
  simp only [enroll]
  split
  · simp [Event.isEnrollment]
  · rw [told_failed, untold_create]
    simp [Outcome.failed]

/-! ## Steps -/

namespace Session

variable [Platform]

/-- The federation keys of the users that a step has made, as its record tells: of the identity that
a login verifies or a reconciliation is given, and none for other steps. -/
def enrolledBy (base : String) (record : Step × Entry) : List CodeString :=
  match record.1.identity? base with
  | some identity => enrolled identity record.2.events
  | none => []

variable {session : Session} {step : Step}

theorem enrolledBy_of_identity? {base : String} {entry : Entry}
    (asserted : step.identity? base = some identity) :
    enrolledBy base (step, entry) = enrolled identity entry.events := by
  simp only [enrolledBy, asserted]

end Session

end FederatedLogin

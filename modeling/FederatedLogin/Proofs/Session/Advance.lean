import FederatedLogin.Login.Session
import FederatedLogin.Proofs.Login.Reconcile

/-!
# How a session advances

A step of a session takes orderly rows to orderly rows that continue them, whatever the step is and
whatever lies in wait for it.  A step that asserts a uid and succeeds answers with the user of the
row of that uid.

A run is followed through its records: every record shows the rows after its step, and later rows
continue earlier ones.
-/

namespace FederatedLogin.Session

open FederatedLogin.Store FederatedLogin.Text

variable [Platform]

/-- The uid that a step asserts: of the identity that a login verifies or a reconciliation is given.
Other steps assert none. -/
def Step.assertedUid? (base : String) : Step → Option CodeString
  | .login credential reply =>
      match (Verification.verify base credential reply).result with
      | .ok identity => some identity.uid
      | .error _ => none
  | .reconcile identity _ => some identity.uid
  | _ => none

/-- The identity that a step asserts: the one that a login verifies or a reconciliation is given.
Other steps assert none. -/
def Step.identity? (base : String) : Step → Option Identity
  | .login credential reply => (Verification.verify base credential reply).result.toOption
  | .reconcile identity _ => some identity
  | _ => none

/-- A step for a uid that answered with a user. -/
structure Entry.Resolves (base : String) (step : Step) (entry : Entry) (uid : CodeString)
    (user : User) : Prop where
  asserted : step.assertedUid? base = some uid
  answered : entry.result = .ok (.user user)

/-- What a step does to rows, as its record shows it. -/
structure Advance (base : String) (step : Step) (entry : Entry) (rows after : List Row) : Prop where
  rows_eq : entry.rows = some after
  continues : Continues after rows
  exists_row : ∀ {uid user}, entry.Resolves base step uid user →
    ∃ row ∈ after, row.federationKey = uid ∧ user = row.toUser

variable {session : Session} {rows : List Row}

/-! ## One step -/

theorem step_base (session : Session) (step : Step) :
    (session.step step).1.base = session.base := by
  cases step <;> simp only [Session.step, after]

/-- A step that asserts an identity does to the backend what the reconciliation of the identity
does, and ends as it ends. -/
theorem step_of_identity? {step : Step} {identity : Identity}
    (asserted : step.identity? session.base = some identity) :
    ∃ principal, let reconciled := reconcile identity principal session.backend
      (session.step step).1 = { session with backend := reconciled.backend } ∧
        (session.step step).2.result = reconciled.result.map .user := by
  cases step with
  | login credential reply =>
      cases verified : (Verification.verify session.base credential reply).result with
      | error failure => simp [Step.identity?, verified, Except.toOption] at asserted
      | ok asserting =>
          simp only [Step.identity?, verified, Except.toOption, Option.some.injEq] at asserted
          subst asserted
          refine ⟨credential.principal, ?_⟩
          simp only [step, after, login_of_ok session.backend verified, and_self]
  | reconcile asserting principal =>
      cases asserted
      exact ⟨principal, rfl, rfl⟩
  | _ => cases asserted

omit [Platform] in
/-- A reconciliation whose step answers with a user came to that user. -/
theorem result_of_answered {result : Except Failure User} {user : User}
    (answered : result.map Answer.user = .ok (.user user)) : result = .ok user := by
  cases result with
  | error failure => cases answered
  | ok resolved =>
      cases answered
      rfl

/-- A step that asserts no uid advances if it leaves rows that continue those before it. -/
theorem Advance.of_unasserted {base : String} {step : Step} {entry : Entry} {after : List Row}
    (unasserted : step.assertedUid? base = none) (rows_eq : entry.rows = some after)
    (continues : Continues after rows) : Advance base step entry rows after where
  rows_eq := rows_eq
  continues := continues
  exists_row resolves := by
    have asserted := resolves.asserted
    rw [unasserted] at asserted
    cases asserted

/-- A step that answers with a reconciled user advances as the reconciliation does. -/
theorem Advance.of_reconciled {base : String} {step : Step} {entry : Entry} {after : List Row}
    {identity : Identity} {result : Except Failure User}
    (reconciled : Reconciled rows identity result after)
    (asserted : step.assertedUid? base = some identity.uid) (rows_eq : entry.rows = some after)
    (result_eq : entry.result = result.map Answer.user) : Advance base step entry rows after where
  rows_eq := rows_eq
  continues := reconciled.continues
  exists_row {uid user} resolves := by
    have sameUid := resolves.asserted
    rw [asserted, Option.some.injEq] at sameUid
    have succeeded := result_of_answered (result_eq.symm.trans resolves.answered)
    obtain ⟨row, rowMem, key, _, user_eq⟩ := reconciled.exists_row succeeded
    exact ⟨row, rowMem, key.trans sameUid, user_eq⟩

/-- Every step of a session in order advances its rows and leaves it in order. -/
theorem step_advances (inOrder : session.backend.InOrder rows) (step : Step) :
    ∃ after, (session.step step).1.backend.InOrder after ∧
      Advance session.base step (session.step step).2 rows after := by
  cases step with
  | login credential reply =>
      cases verified : (Verification.verify session.base credential reply).result with
      | error failure =>
          have refused := login_of_error session.backend verified
          refine ⟨rows, ?_, .of_unasserted ?_ ?_ (Continues.refl rows)⟩
          · simpa only [step, after, refused] using inOrder
          · simp only [Step.assertedUid?, verified]
          · simpa only [step, after, refused] using inOrder.keeps.rows_eq
      | ok identity =>
          have accepted := login_of_ok session.backend verified
          obtain ⟨rowsAfter, afterInOrder, reconciled⟩ :=
            reconcile_cases inOrder identity credential.principal
          refine ⟨rowsAfter, ?_, .of_reconciled reconciled ?_ ?_ ?_⟩
          · simpa only [step, after, accepted] using afterInOrder
          · simp only [Step.assertedUid?, verified]
          · simpa only [step, after, accepted] using afterInOrder.keeps.rows_eq
          · simp only [step, after, accepted]
  | verify credential reply =>
      exact ⟨rows, inOrder, .of_unasserted rfl inOrder.keeps.rows_eq (Continues.refl rows)⟩
  | reconcile identity principal =>
      obtain ⟨rowsAfter, afterInOrder, reconciled⟩ := reconcile_cases inOrder identity principal
      exact ⟨rowsAfter, afterInOrder,
        .of_reconciled reconciled rfl afterInOrder.keeps.rows_eq rfl⟩
  | create user =>
      rcases inOrder.create_cases user with
        ⟨failure, backend, refused, afterInOrder⟩ | ⟨backend, stored, _, _, afterInOrder⟩
      · refine ⟨rows, ?_, .of_unasserted rfl ?_ (Continues.refl rows)⟩
        · simpa only [step, after, refused] using afterInOrder
        · simpa only [step, after, refused] using afterInOrder.keeps.rows_eq
      · refine ⟨rows ++ [Row.ofUser (rows.length + 1) user], ?_,
          .of_unasserted rfl ?_ (Continues.append rows _)⟩
        · simpa only [step, after, stored] using afterInOrder
        · simpa only [step, after, stored] using afterInOrder.keeps.rows_eq
  | update user =>
      rcases inOrder.update_cases user with
        ⟨failure, backend, refused, afterInOrder⟩ | ⟨backend, stored, _, _, afterInOrder⟩
      · refine ⟨rows, ?_, .of_unasserted rfl ?_ (Continues.refl rows)⟩
        · simpa only [step, after, refused] using afterInOrder
        · simpa only [step, after, refused] using afterInOrder.keeps.rows_eq
      · refine ⟨_, ?_, .of_unasserted rfl ?_ (Continues.changed user rows)⟩
        · simpa only [step, after, stored] using afterInOrder
        · simpa only [step, after, stored] using afterInOrder.keeps.rows_eq
  | find key =>
      obtain ⟨result, found, _⟩ := inOrder.find_cases key
      refine ⟨rows, ⟨?_, ?_⟩, .of_unasserted rfl ?_ (Continues.refl rows)⟩
      · simpa only [step, after, found] using inOrder.keeps
      · simpa only [step, after, found] using inOrder.access
      · simpa only [step, after, found] using inOrder.keeps.rows_eq
  | size =>
      exact ⟨rows, inOrder, .of_unasserted rfl inOrder.keeps.rows_eq (Continues.refl rows)⟩
  | createSchema =>
      have same := inOrder.keeps.createSchema_eq
      refine ⟨rows, ⟨?_, inOrder.access⟩, .of_unasserted rfl ?_ (Continues.refl rows)⟩
      · simpa only [step, after, same] using inOrder.keeps
      · simpa only [step, after, same] using inOrder.keeps.rows_eq
  | plant operation ambush =>
      refine ⟨rows, ⟨?_, ?_⟩, .of_unasserted rfl ?_ (Continues.refl rows)⟩
      · cases operation <;> exact inOrder.keeps
      · cases operation <;> exact inOrder.access
      · cases operation <;> exact inOrder.keeps.rows_eq

/-! ## Runs -/

theorem run_cons (session : Session) (first : Step) (rest : List Step) :
    session.run (first :: rest) =
      (((session.step first).1.run rest).1,
        (session.step first).2 :: ((session.step first).1.run rest).2) :=
  rfl

theorem run_base (session : Session) (steps : List Step) :
    (session.run steps).1.base = session.base := by
  induction steps generalizing session with
  | nil => rfl
  | cons first rest ih => exact (ih (session.step first).1).trans (step_base session first)

/-- Every step has its record. -/
@[simp]
theorem length_run (session : Session) (steps : List Step) :
    (session.run steps).2.length = steps.length := by
  induction steps generalizing session with
  | nil => rfl
  | cons first rest ih => rw [run_cons, List.length_cons, ih, List.length_cons]

/-- The steps of a run, each with its record. -/
def transcript (session : Session) (steps : List Step) : List (Step × Entry) :=
  steps.zip (session.run steps).2

theorem transcript_cons (session : Session) (first : Step) (rest : List Step) :
    session.transcript (first :: rest) =
      (first, (session.step first).2) :: (session.step first).1.transcript rest :=
  rfl

/-- The transcript leaves no record out. -/
theorem map_snd_transcript (session : Session) (steps : List Step) :
    (session.transcript steps).map Prod.snd = (session.run steps).2 :=
  List.map_snd_zip (Nat.le_of_eq (session.length_run steps))

omit [Platform] in
/-- The session of a kind of store at its start is in order. -/
theorem start_inOrder (base : String) (kind : Kind) (random : RandomSource) :
    (start base kind.empty random).backend.InOrder [] :=
  ⟨kind.keeps_empty, rfl⟩

end FederatedLogin.Session

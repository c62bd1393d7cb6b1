import FederatedLogin.Platform.Standard
import FederatedLogin.Proofs.Login.Settled
import FederatedLogin.Proofs.Session.Atomicity

/-!
# Users without an e-mail

A login that makes a user or gives one another name sees to it that the user has an e-mail.  A login
that finds its user under the name it asserts takes the user as it is, and the stores take an
empty e-mail like any other that is free.  So a user without an e-mail logs in as long as the
name does not change, and such a user was written directly, by a step that is no login.

Whichever way it was come by, nobody else has the e-mail of a user that logs in.
-/

namespace FederatedLogin

open FederatedLogin.Store FederatedLogin.Text

/-- Whether the store has a user without an e-mail under a federation key. -/
def Store.LacksEmail (store : Store) (key : CodeString) : Prop :=
  ∃ rows row, store.rows = some rows ∧ row ∈ rows ∧ row.federationKey = key ∧ row.email = []

/-! ## Reconciliations -/

variable {backend : Backend} {identity : Identity} {principal : Principal} {user : User}
  {rows after : List Row} {key : CodeString}

theorem lacksEmail_iff (inOrder : backend.InOrder rows) : backend.store.LacksEmail key ↔
    ∃ row ∈ rows, row.federationKey = key ∧ row.email = [] := by
  constructor
  · rintro ⟨shown, row, shown_eq, rowMem, rowKey, missing⟩
    rw [inOrder.keeps.rows_eq, Option.some.injEq] at shown_eq
    exact ⟨row, shown_eq ▸ rowMem, rowKey, missing⟩
  · rintro ⟨row, rowMem, rowKey, missing⟩
    exact ⟨rows, row, inOrder.keeps.rows_eq, rowMem, rowKey, missing⟩

/-- No store starts with users. -/
theorem Store.Fresh.not_lacksEmail {store : Store} (fresh : store.Fresh) :
    ¬ store.LacksEmail key := by
  rintro ⟨rows, row, rows_eq, rowMem, _⟩
  cases fresh with
  | empty kind =>
      rw [kind.keeps_empty.rows_eq, Option.some.injEq] at rows_eq
      subst rows_eq
      cases rowMem
  | tableless => cases rows_eq

/-- A reconciliation returns a user without an e-mail exactly if there is one under its uid with the
name that is asserted. -/
theorem missing_iff (inOrder : backend.InOrder rows)
    (succeeded : (reconcile identity principal backend).result = .ok user) :
    user.email = [] ↔ ∃ row ∈ rows, row.federationKey = identity.uid ∧
      row.username = identity.username ∧ row.email = [] := by
  constructor
  · intro missing
    cases present : rowUnder? rows identity.uid with
    | none =>
        obtain ⟨id, rfl⟩ := user_of_unknown inOrder present succeeded
        exact absurd missing (email_newUser_ne_empty identity _)
    | some row =>
        obtain ⟨rowMem, rowKey⟩ := inOrder.keeps.orderly.rowUnder?_eq_some_iff.mp present
        rcases user_of_known inOrder rowMem rowKey succeeded with ⟨name, rfl⟩ | ⟨_, rfl⟩
        · exact ⟨row, rowMem, rowKey, name, missing⟩
        · exact absurd missing (email_renamedUser_ne_empty row.toUser _ _)
  · rintro ⟨row, rowMem, rowKey, name, missing⟩
    rcases user_of_known inOrder rowMem rowKey succeeded with ⟨_, rfl⟩ | ⟨differs, _⟩
    · exact missing
    · exact absurd name differs

/-- A reconciliation leaves a user without an e-mail only where there was one. -/
theorem lacksEmail_of_reconcile (inOrder : backend.InOrder rows)
    (lacks : (reconcile identity principal backend).backend.store.LacksEmail key) :
    backend.store.LacksEmail key := by
  cases ended : (reconcile identity principal backend).result with
  | error failure => rwa [store_reconcile_of_error ended] at lacks
  | ok user =>
      obtain ⟨after, afterInOrder, reconciled⟩ := reconcile_cases inOrder identity principal
      obtain ⟨row, rowMem, rowKey, missing⟩ := (lacksEmail_iff afterInOrder).mp lacks
      apply (lacksEmail_iff inOrder).mpr
      by_cases own : identity.uid = key
      · obtain ⟨answer, answerMem, answerKey, _, rfl⟩ := reconciled.exists_row ended
        have isAnswer := afterInOrder.keeps.orderly.eq_of_key rowMem answerMem
          (rowKey.trans (own.symm.trans answerKey.symm))
        subst isAnswer
        obtain ⟨kept, keptMem, keptKey, _, keptMissing⟩ := (missing_iff inOrder ended).mp missing
        exact ⟨kept, keptMem, keptKey.trans own, keptMissing⟩
      · have isUnder := afterInOrder.keeps.orderly.rowUnder?_eq_some_iff.mpr ⟨rowMem, rowKey⟩
        rw [reconciled.rowUnder?_of_ne own,
          inOrder.keeps.orderly.rowUnder?_eq_some_iff] at isUnder
        exact ⟨row, isUnder.1, rowKey, missing⟩

/-! ## Sessions -/

namespace Session

/-- The user that a step writes directly. -/
def Step.written? : Step → Option User
  | .create user => some user
  | .update user => some user
  | _ => none

section

variable [Platform] {session : Session}

/-- A step that is in order leaves a user without an e-mail only where there was one, or where it
writes one. -/
theorem step_lacksEmail (inOrder : session.backend.InOrder rows) {step : Step}
    (lacks : (session.step step).1.backend.store.LacksEmail key) :
    session.backend.store.LacksEmail key ∨
      ∃ user, step.written? = some user ∧ user.federationKey = key ∧ user.email = [] := by
  cases step with
  | login credential reply =>
      cases verified : (Verification.verify session.base credential reply).result with
      | error failure =>
          simp only [step, Session.after, login_of_error session.backend verified] at lacks
          exact .inl lacks
      | ok identity =>
          simp only [step, Session.after, login_of_ok session.backend verified] at lacks
          exact .inl (lacksEmail_of_reconcile inOrder lacks)
  | verify credential reply => exact .inl lacks
  | reconcile identity principal => exact .inl (lacksEmail_of_reconcile inOrder lacks)
  | create user =>
      rcases inOrder.create_cases user with
        ⟨failure, backend, refused, afterInOrder⟩ | ⟨backend, stored, _, _, afterInOrder⟩
      · simp only [step, Session.after, refused] at lacks
        exact .inl ((lacksEmail_iff inOrder).mpr ((lacksEmail_iff afterInOrder).mp lacks))
      · simp only [step, Session.after, stored] at lacks
        obtain ⟨row, rowMem, rowKey, missing⟩ := (lacksEmail_iff afterInOrder).mp lacks
        rw [List.mem_append, List.mem_singleton] at rowMem
        rcases rowMem with earlier | rfl
        · exact .inl ((lacksEmail_iff inOrder).mpr ⟨row, earlier, rowKey, missing⟩)
        · exact .inr ⟨user, rfl, rowKey, missing⟩
  | update user =>
      rcases inOrder.update_cases user with
        ⟨failure, backend, refused, afterInOrder⟩ | ⟨backend, stored, _, _, afterInOrder⟩
      · simp only [step, Session.after, refused] at lacks
        exact .inl ((lacksEmail_iff inOrder).mpr ((lacksEmail_iff afterInOrder).mp lacks))
      · simp only [step, Session.after, stored] at lacks
        obtain ⟨row, rowMem, rowKey, missing⟩ := (lacksEmail_iff afterInOrder).mp lacks
        obtain ⟨earlier, earlierMem, rfl⟩ := List.mem_map.mp rowMem
        by_cases about : Table.isAbout user earlier
        · rw [if_pos about] at rowKey missing
          exact .inr ⟨user, rfl, (Table.isAbout_iff.mp about).2.symm.trans rowKey, missing⟩
        · rw [if_neg about] at rowKey missing
          exact .inl ((lacksEmail_iff inOrder).mpr ⟨earlier, earlierMem, rowKey, missing⟩)
  | find sought =>
      simp only [step, Session.after, Backend.store_find] at lacks
      exact .inl lacks
  | size => exact .inl lacks
  | createSchema =>
      simp only [step, Session.after, inOrder.keeps.createSchema_eq] at lacks
      exact .inl lacks
  | plant operation ambush => cases operation <;> exact .inl lacks

/-- A step without a table leaves no users, so none without an e-mail. -/
theorem not_lacksEmail_of_tableless (tableless : session.backend.Tableless) (step : Step) :
    ¬ (session.step step).1.backend.store.LacksEmail key := by
  by_cases makes : step = .createSchema
  · subst makes
    rw [lacksEmail_iff (step_createSchema tableless)]
    simp
  · rintro ⟨rows, _, rows_eq, _⟩
    rw [(step_tableless tableless makes).store] at rows_eq
    cases rows_eq

/-- A run leaves a user without an e-mail only where there was one, or where one of its steps wrote
one. -/
theorem run_lacksEmail (steps : List Step)
    (settled : session.backend.Tableless ∨ ∃ rows, session.backend.InOrder rows)
    (lacks : (session.run steps).1.backend.store.LacksEmail key) :
    session.backend.store.LacksEmail key ∨ ∃ step ∈ steps, ∃ user,
      step.written? = some user ∧ user.federationKey = key ∧ user.email = [] := by
  induction steps generalizing session with
  | nil => exact .inl lacks
  | cons first rest ih =>
      have next := run_inOrder_or_tableless [first] session settled
      rcases ih next lacks with nextLacks | ⟨step, stepMem, wrote⟩
      · rcases settled with tableless | ⟨rows, inOrder⟩
        · exact absurd nextLacks (not_lacksEmail_of_tableless tableless first)
        · rcases step_lacksEmail inOrder nextLacks with before | wrote
          · exact .inl before
          · exact .inr ⟨first, List.mem_cons_self, wrote⟩
      · exact .inr ⟨step, List.mem_cons_of_mem first stepMem, wrote⟩

/-- A login or reconciliation that succeeds, after any steps whatever, answers with a user whose
e-mail no other row has.  The e-mail is missing exactly if there was a user without one under the
uid, with the name that is asserted; and then one of the steps before wrote a user without an e-mail
under that uid. -/
theorem email_missing_iff (base : String) {store : Store} (fresh : store.Fresh)
    (random : RandomSource) (steps : List Step) {step : Step} {identity : Identity}
    (asserted : step.identity? base = some identity) {user : User}
    (answered : (((start base store random).run steps).1.step step).2.result =
      .ok (.user user)) :
    let session := ((start base store random).run steps).1
    ∃ rows after row, session.backend.store.rows = some rows ∧
      (session.step step).1.backend.store.rows = some after ∧ row ∈ after ∧ user = row.toUser ∧
      (∀ other ∈ after, other.email = user.email → other = row) ∧
      (user.email = [] ↔ ∃ kept ∈ rows, kept.federationKey = identity.uid ∧
        kept.username = identity.username ∧ kept.email = []) ∧
      (user.email = [] → ∃ earlier ∈ steps, ∃ written, earlier.written? = some written ∧
        written.federationKey = identity.uid ∧ written.email = []) := by
  intro session
  have startSettled := start_inOrder_or_tableless base fresh random
  have sameBase : session.base = base := run_base _ steps
  have assertedHere : step.identity? session.base = some identity := sameBase.symm ▸ asserted
  obtain ⟨principal, next_eq, result_eq⟩ := step_of_identity? assertedHere
  have succeeded := result_of_answered (result_eq.symm.trans answered)
  rcases run_inOrder_or_tableless steps _ startSettled with tableless | ⟨rows, inOrder⟩
  · exact absurd succeeded (tableless.reconcile_refused identity principal user)
  · obtain ⟨after, afterInOrder, reconciled⟩ := reconcile_cases inOrder identity principal
    obtain ⟨row, rowMem, _, _, rfl⟩ := reconciled.exists_row succeeded
    have missing := missing_iff inOrder succeeded
    refine ⟨rows, after, row, inOrder.keeps.rows_eq, ?_, rowMem, rfl, ?_, missing, ?_⟩
    · rw [next_eq]
      exact afterInOrder.keeps.rows_eq
    · intro other otherMem sameEmail
      exact afterInOrder.keeps.orderly.eq_of_email otherMem rowMem sameEmail
    · intro isMissing
      obtain ⟨kept, keptMem, keptKey, _, keptMissing⟩ := missing.mp isMissing
      have lacks := (lacksEmail_iff inOrder).mpr ⟨kept, keptMem, keptKey, keptMissing⟩
      exact (run_lacksEmail steps startSettled lacks).resolve_left fresh.not_lacksEmail

end

section

open scoped Platform

/-- A user that was written without an e-mail gets one with another name. -/
theorem email_gained_with_name :
    let steps : List Step := [.create { federationKey := "u", username := "n" }]
    let session := ((start "http://verify.example.com" Kind.memory.empty
      (RandomSource.arithmetic 0)).run steps).1
    let login : Step := .reconcile { uid := "u", username := "k" } .unnamed
    let user : User :=
      { id := some 1, federationKey := "u", username := "k", email := "k@placeholder.local" }
    Store.Fresh Kind.memory.empty ∧
      login.identity? "http://verify.example.com" = some { uid := "u", username := "k" } ∧
      (session.step login).2.result = .ok (.user user) ∧
      ∃ after row, (session.step login).1.backend.store.rows = some after ∧ row ∈ after ∧
        user = row.toUser ∧ ∀ other ∈ after, other.email = user.email → other = row := by
  intro steps session login user
  have asserted : login.identity? "http://verify.example.com" =
      some { uid := "u", username := "k" } := rfl
  have answered : (session.step login).2.result = .ok (.user user) := rfl
  obtain ⟨_, after, row, _, after_eq, rowMem, user_eq, alone, _⟩ :=
    email_missing_iff "http://verify.example.com" (.empty .memory) (RandomSource.arithmetic 0) steps
      asserted answered
  exact ⟨.empty .memory, asserted, answered, after, row, after_eq, rowMem, user_eq, alone⟩


/-- A user that was written without an e-mail logs in without one. -/
theorem email_missing_after_login :
    let session := ((start "http://verify.example.com" Kind.memory.empty
      (RandomSource.arithmetic 0)).run [.create { federationKey := "u", username := "n" }]).1
    session.Reachable ∧
      (session.step (.reconcile { uid := "u", username := "n" } .unnamed)).2.result =
        .ok (.user { id := some 1, federationKey := "u", username := "n", email := [] }) :=
  ⟨⟨_, _, _, _, .empty .memory, rfl⟩, rfl⟩

end

end Session

end FederatedLogin

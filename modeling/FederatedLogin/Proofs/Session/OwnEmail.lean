import FederatedLogin.Platform.Standard
import FederatedLogin.Proofs.Login.Settled
import FederatedLogin.Proofs.Session.Atomicity

/-!
# E-mails of their own

A user whose e-mail is neither missing nor a placeholder keeps it: logins give the user other names,
and other users may take any name and any e-mail that is free, but only a direct change of that
user touches the e-mail.  Nor can the e-mail keep its owner out, since no other row has it, so the
change of the name is refused only where a database cannot encode the name.

A step is followed by what it is about.  One that is about another row leaves the row as it is.  One
about the row itself is a login for its uid, and the user that comes of it is known beforehand.
-/

namespace FederatedLogin

open FederatedLogin.Store FederatedLogin.Text

/-- An e-mail that no login derives anew. -/
structure IsOwnEmail (email : CodeString) : Prop where
  nonempty : email ≠ []
  lasting : isPlaceholderEmail email = false

namespace Store

/-- A row is still there with its e-mail, perhaps under another name. -/
def Row.Stands (row : Row) (rows : List Row) : Prop :=
  ∃ username, row.rename username row.email ∈ rows

variable {rows : List Row} {row : Row}

theorem Row.Stands.of_mem (rowMem : row ∈ rows) : row.Stands rows :=
  ⟨row.username, rowMem⟩

/-- No other row stands in the way of a row that keeps its e-mail. -/
theorem Orderly.emailFree_of_kept (orderly : Orderly rows) (rowMem : row ∈ rows)
    (username : CodeString) : ¬ EmailOfAnother rows (row.rename username row.email).toUser := by
  rw [orderly.emailOfAnother_rename_toUser_iff rowMem]
  rintro ⟨other, otherMem, otherKey, sameEmail⟩
  exact otherKey (by rw [orderly.eq_of_email otherMem rowMem sameEmail])

/-- Rows that nothing is about stay. -/
theorem Touched.mem {about : Row → Prop} {after : List Row} (touched : Touched about rows after)
    (rowMem : row ∈ rows) (elsewhere : ¬ about row) : row ∈ after := by
  cases touched with
  | kept => exact rowMem
  | added other _ _ => exact List.mem_append_left _ rowMem
  | renamed before other behind username email rows_eq isAbout =>
      subst rows_eq
      rw [List.mem_append, List.mem_cons] at rowMem ⊢
      rcases rowMem with inBefore | rfl | inBehind
      · exact .inl inBefore
      · exact absurd isAbout elsewhere
      · exact .inr (.inr inBehind)

end Store

variable {backend : Backend} {rows : List Row} {row : Row} {identity : Identity}

/-! ## Logins of the owner -/

/-- A new name leaves an e-mail of its own alone, and costs no randomness. -/
theorem renamedUser_of_own (own : IsOwnEmail row.email) (username : CodeString)
    (random : RandomSource) :
    renamedUser row.toUser username random = ((row.rename username row.email).toUser, random) := by
  have kept : (if isPlaceholderEmail row.toUser.email then [] else row.toUser.email) = row.email := by
    rw [Row.toUser, own.lasting]
    rfl
  have chosen : (row.rename username row.email).toUser.chooseEmail random = (row.email, random) :=
    User.chooseEmail_of_email random own.nonempty
  simp only [renamedUser, kept]
  exact congrArg
    (fun chosen => ({ (row.rename username row.email).toUser with email := chosen.1 }, chosen.2))
    chosen

/-- A login that succeeds gives the owner of an e-mail the name it asserts, and the e-mail. -/
theorem reconciled_owner (inOrder : backend.InOrder rows) (rowMem : row ∈ rows)
    (own : IsOwnEmail row.email) (key : row.federationKey = identity.uid) {principal : Principal}
    {user : User} (succeeded : (reconcile identity principal backend).result = .ok user) :
    user = (row.rename identity.username row.email).toUser := by
  rcases user_of_known inOrder rowMem key succeeded with ⟨name, rfl⟩ | ⟨_, renamed⟩
  · rw [← name]
    rfl
  · rw [renamed, renamedUser_of_own own]

/-- Nothing but what lies in wait, or a name that the store does not take, keeps the owner of an
e-mail out. -/
theorem reconcile_owner (inOrder : backend.InOrder rows) (rowMem : row ∈ rows)
    (own : IsOwnEmail row.email) (key : row.federationKey = identity.uid)
    (idle : backend.onFind.times = 0)
    (reached : ∀ failure, backend.onUpdate.strike? ≠ some (.failing failure))
    (principal : Principal) :
    (reconcile identity principal backend).result =
      if backend.store.kind.takes identity.username then
        .ok (row.rename identity.username row.email).toUser
      else .error (refusal identity.username) := by
  by_cases name : row.username = identity.username
  · have takesName := inOrder.keeps.takes_username rowMem
    rw [name] at takesName
    rw [reconcile_of_resolved inOrder idle rowMem key name, if_pos takesName, ← name]
    rfl
  · have found := inOrder.find_of_mem idle rowMem
    have differ : ¬ row.toUser.username = identity.username := name
    have renamed := renamedUser_of_own own identity.username backend.random
    by_cases takesName : backend.store.kind.takes identity.username
    · have textsTaken :=
        refused?_renamedUser (inOrder.keeps.takes_email rowMem) takesName backend.random
      simp only [renamed] at textsTaken
      obtain ⟨store, updated, _⟩ := inOrder.keeps.update_of_free textsTaken
        ⟨row, rowMem, Table.isAbout_rename_toUser row identity.username row.email⟩
        (inOrder.keeps.orderly.emailFree_of_kept rowMem identity.username)
      have stored := Backend.update_of_ok inOrder.access reached updated
      rw [if_pos takesName]
      simp only [reconcile, ← key, found, if_neg differ, rename, renamed, stored]
    · have textRefused := refused?_renamedUser_of_name row.toUser takesName backend.random
      have refused :=
        Backend.update_of_error inOrder.access reached (inOrder.keeps.update_of_refused textRefused)
      simp only [renamed] at refused
      rw [if_neg takesName]
      simp only [reconcile, ← key, found, if_neg differ, rename, renamed, refused]
      rfl

/-- A login of the owner of an e-mail leaves the row standing. -/
theorem stands_reconcile (inOrder : backend.InOrder rows) (rowMem : row ∈ rows)
    (own : IsOwnEmail row.email) (key : row.federationKey = identity.uid) (principal : Principal) :
    ∃ after, (reconcile identity principal backend).backend.InOrder after ∧ row.Stands after := by
  obtain ⟨after, afterInOrder, reconciled⟩ := reconcile_cases inOrder identity principal
  refine ⟨after, afterInOrder, ?_⟩
  cases ended : (reconcile identity principal backend).result with
  | error failure =>
      have same := store_reconcile_of_error ended
      have rows_eq := afterInOrder.keeps.rows_eq
      rw [same, inOrder.keeps.rows_eq, Option.some.injEq] at rows_eq
      exact rows_eq ▸ .of_mem rowMem
  | ok user =>
      obtain ⟨shown, shownMem, _, _, shown_eq⟩ := reconciled.exists_row ended
      have user_eq := reconciled_owner inOrder rowMem own key ended
      have isRow := Row.toUser_inj (shown_eq.symm.trans user_eq)
      exact ⟨identity.username, isRow ▸ shownMem⟩

/-! ## Sessions -/

namespace Session

section

variable [Platform] {session : Session}

/-- A step that asserts a uid asserts an identity with it. -/
theorem Step.exists_identity? {base : String} {step : Step} {uid : CodeString}
    (asserted : step.assertedUid? base = some uid) :
    ∃ identity, step.identity? base = some identity ∧ identity.uid = uid := by
  cases step with
  | login credential reply =>
      cases verified : (Verification.verify base credential reply).result with
      | error failure => simp [assertedUid?, verified] at asserted
      | ok identity =>
          refine ⟨identity, ?_, ?_⟩
          · simp only [identity?, verified, Except.toOption]
          · simpa [assertedUid?, verified] using asserted
  | reconcile identity principal => exact ⟨identity, rfl, Option.some.inj asserted⟩
  | _ => cases asserted

/-- A login or reconciliation for the uid of a row leaves the row standing. -/
theorem stands_of_asserted (inOrder : session.backend.InOrder rows) (rowMem : row ∈ rows)
    (own : IsOwnEmail row.email) {step : Step}
    (asserted : step.assertedUid? session.base = some row.federationKey) :
    ∃ after, (session.step step).1.backend.InOrder after ∧ row.Stands after := by
  obtain ⟨identity, isIdentity, key⟩ := Step.exists_identity? asserted
  obtain ⟨principal, next_eq, _⟩ := step_of_identity? isIdentity
  rw [next_eq]
  exact stands_reconcile inOrder rowMem own key.symm principal

/-- Every step but a direct change of the row leaves the row standing. -/
theorem step_stands (inOrder : session.backend.InOrder rows) (stands : row.Stands rows)
    (own : IsOwnEmail row.email) {step : Step}
    (untouched : ∀ user, step = .update user → ¬ Table.isAbout user row) :
    ∃ after, (session.step step).1.backend.InOrder after ∧ row.Stands after := by
  obtain ⟨username, heldMem⟩ := stands
  -- What a step is not about it does not touch; of the steps about this row only those that assert
  -- its uid get as far as writing it.
  by_cases isAbout : step.IsAbout session.base (row.rename username row.email)
  · cases step with
    | login credential reply => exact stands_of_asserted inOrder heldMem own isAbout
    | reconcile identity principal => exact stands_of_asserted inOrder heldMem own isAbout
    | create user =>
        rcases inOrder.create_cases user with
          ⟨failure, after, refused, afterInOrder⟩ | ⟨_, _, keyFree, _, _⟩
        · refine ⟨rows, ?_, username, heldMem⟩
          simpa only [step, Session.after, refused] using afterInOrder
        · exact absurd ⟨_, heldMem, isAbout⟩ keyFree
    | update user => exact absurd isAbout (untouched user rfl)
    | _ => cases isAbout
  · obtain ⟨after, afterInOrder, _⟩ := step_advances inOrder step
    have touched := step_touches inOrder step
    rw [inOrder.keeps.rows_eq, afterInOrder.keeps.rows_eq, Option.rel_some_some] at touched
    exact ⟨after, afterInOrder, username, touched.mem heldMem isAbout⟩

/-- A run without a direct change of the row leaves the row standing. -/
theorem run_stands (inOrder : session.backend.InOrder rows) (stands : row.Stands rows)
    (own : IsOwnEmail row.email) {steps : List Step}
    (untouched : ∀ user, .update user ∈ steps → ¬ Table.isAbout user row) :
    ∃ last, (session.run steps).1.backend.InOrder last ∧ row.Stands last := by
  induction steps generalizing session rows with
  | nil => exact ⟨rows, inOrder, stands⟩
  | cons first rest ih =>
      have firstUntouched (user : User) (isUpdate : first = .update user) :=
        untouched user (isUpdate ▸ List.mem_cons_self)
      obtain ⟨after, afterInOrder, afterStands⟩ := step_stands inOrder stands own firstUntouched
      apply ih afterInOrder afterStands
      intro user inRest
      exact untouched user (List.mem_cons_of_mem first inRest)

/-- A row whose e-mail is neither missing nor a placeholder keeps it over every run without a direct
change of that row, whoever logs in and whatever is written of others.  At every point, a login or a
reconciliation for the uid of the row succeeds if nothing lies in wait for the look-up and no
failure for the change, and answers with the user of that row, with the name that is asserted and
that e-mail.  Only under a name that the store does not take, which is one with a surrogate on a
database, it fails because of that name. -/
theorem own_email_survives (reachable : session.Reachable)
    (rows_eq : session.backend.store.rows = some rows) (rowMem : row ∈ rows)
    (own : IsOwnEmail row.email) {steps : List Step}
    (untouched : ∀ user, .update user ∈ steps → ¬ Table.isAbout user row) :
    let later := (session.run steps).1
    (∃ shown, later.backend.store.rows = some shown ∧ row.Stands shown) ∧
      ∀ step identity, Step.identity? later.base step = some identity →
        identity.uid = row.federationKey → later.backend.onFind.times = 0 →
        (∀ failure, later.backend.onUpdate.strike? ≠ some (.failing failure)) →
        (later.step step).2.result =
          if later.backend.store.kind.takes identity.username then
            .ok (.user (row.rename identity.username row.email).toUser)
          else .error (refusal identity.username) := by
  intro later
  obtain ⟨shown, shownInOrder, stands⟩ :=
    run_stands (reachable.inOrder rows_eq) (.of_mem rowMem) own untouched
  refine ⟨⟨shown, shownInOrder.keeps.rows_eq, stands⟩, ?_⟩
  intro step identity asserted key idle reached
  obtain ⟨username, heldMem⟩ := stands
  obtain ⟨principal, _, result_eq⟩ := step_of_identity? asserted
  have reconciled :=
    reconcile_owner shownInOrder heldMem own key.symm idle reached principal
  rw [result_eq, reconciled]
  split <;> rfl

end

section

open scoped Platform

/-- Somebody with an e-mail of its own takes the name of somebody else, whose user was changed in
between. -/
theorem owner_logs_in_as_namesake :
    let owner : User := { federationKey := "u", username := "n", email := "n@example.com" }
    let other : User :=
      { id := some 2, federationKey := "v", username := "m", email := "m@example.com" }
    let session := ((start "http://verify.example.com" Kind.memory.empty
      (RandomSource.arithmetic 0)).run [.create owner]).1
    let steps : List Step := [.reconcile { uid := "v", username := "k" } .unnamed, .update other]
    let later := (session.run steps).1
    session.Reachable ∧ session.backend.store.rows = some [Row.ofUser 1 owner] ∧
      IsOwnEmail owner.email ∧ (∀ user, .update user ∈ steps → user = other) ∧
      Table.isAbout other (Row.ofUser 1 owner) = false ∧
      (later.step (.reconcile { uid := "u", username := "m" } .unnamed)).2.result =
        .ok (.user { owner with id := some 1, username := "m" }) := by
  intro owner other session steps later
  have reachable : session.Reachable := ⟨_, _, _, [.create owner], .empty .memory, rfl⟩
  have own : IsOwnEmail owner.email := ⟨by decide, by decide +kernel⟩
  have updates : ∀ user, .update user ∈ steps → user = other := by simp [steps]
  have elsewhere : Table.isAbout other (Row.ofUser 1 owner) = false := by decide
  have rows_eq : session.backend.store.rows = some [Row.ofUser 1 owner] := rfl
  have untouched : ∀ user, .update user ∈ steps → ¬ Table.isAbout user (Row.ofUser 1 owner) := by
    intro user inSteps
    rw [updates user inSteps, elsewhere]
    exact Bool.false_ne_true
  have survives :=
    own_email_survives reachable rows_eq (List.mem_singleton_self _) own untouched
  have loggedIn := survives.2 (.reconcile { uid := "u", username := "m" } .unnamed)
    { uid := "u", username := "m" } rfl rfl rfl (Ambush.reached_of_idle rfl)
  exact ⟨reachable, rows_eq, own, updates, elsewhere, loggedIn⟩

/-- A name that is a lone surrogate keeps somebody with an e-mail of its own out of a database,
where nothing lies in wait. -/
theorem surrogate_name_keeps_owner_out :
    let owner : User := { federationKey := "u", username := "n", email := "n@example.com" }
    let session := ((start "http://verify.example.com" Kind.database.empty
      (RandomSource.arithmetic 0)).run [.create owner]).1
    let user := "\x7b\"uid\": \"u\", \"username\": \"\\ud800\"\x7d"
    let status := "\x7b\"authenticated\": true, \"user\": " ++ user ++ "\x7d"
    let body := Utf8.encode ("\x7b\"status\": " ++ status ++ "\x7d")
    let login : Step := .login ⟨.named "p", "t"⟩ (.response 200 body)
    session.backend.store.rows = some [Row.ofUser 1 owner] ∧ IsOwnEmail owner.email ∧
      session.backend.Clear ∧
      login.identity? session.base = some { uid := "u", username := [.surrogate 0] } ∧
      (session.step login).2.result = .error (refusal [.surrogate 0]) := by
  intro owner session user status body login
  exact ⟨by decide +kernel, ⟨by decide, by decide +kernel⟩, ⟨rfl, rfl, rfl⟩, by decide +kernel,
    by decide +kernel⟩

end

end Session

end FederatedLogin

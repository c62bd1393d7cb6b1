import FederatedLogin.Platform.Standard
import FederatedLogin.Proofs.Login.Report
import FederatedLogin.Proofs.Session.Tableless

/-!
# Logins that are repeated

What a login answers with is what the store now shows, and a login that is repeated finds its user
as it should be: it answers with the same user, and stores nothing, changes nothing and draws
nothing.

That the store is not even asked to store or change a user shows in what lies in wait for it: a
repeated login springs none of that.
-/

namespace FederatedLogin

open FederatedLogin.Store

/-! ## Look-ups are all that a reconciliation takes from what waits for them -/

namespace Backend

theorem onFind_create (backend : Backend) (user : User) :
    (backend.create user).backend.onFind = backend.onFind := by
  simp only [create]
  split
  · rfl
  · split <;> rfl

theorem onFind_update (backend : Backend) (user : User) :
    (backend.update user).backend.onFind = backend.onFind := by
  simp only [update]
  split
  · rfl
  · split <;> rfl

end Backend

theorem onFind_enroll (identity : Identity) (principal : Principal) (backend : Backend) :
    (enroll identity principal backend).backend.onFind = backend.onFind := by
  have kept := Backend.onFind_create { backend with random := (newUser identity backend.random).2 }
    (newUser identity backend.random).1
  simp only [enroll]
  split <;> exact kept

theorem onFind_rename (existing : User) (identity : Identity) (principal : Principal)
    (backend : Backend) :
    (rename existing identity principal backend).backend.onFind = backend.onFind := by
  have kept := Backend.onFind_update
    { backend with random := (renamedUser existing identity.username backend.random).2 }
    (renamedUser existing identity.username backend.random).1
  simp only [rename]
  split <;> exact kept

/-- A reconciliation looks up once. -/
theorem onFind_reconcile (identity : Identity) (principal : Principal) (backend : Backend) :
    (reconcile identity principal backend).backend.onFind = backend.onFind.spent := by
  simp only [reconcile, backend.backend_find]
  split
  · rfl
  · exact onFind_enroll identity principal _
  · split
    · rfl
    · exact onFind_rename _ identity principal _

/-! ## Sessions -/

namespace Session

/-- A session in which something lies in wait for the storing and the changing of users. -/
def rigged (session : Session) (onCreate onUpdate : Ambush) : Session :=
  { session with backend := (session.backend.ambush .create onCreate).ambush .update onUpdate }

variable {session : Session} {rows : List Row}

theorem inOrder_rigged (inOrder : session.backend.InOrder rows) (onCreate onUpdate : Ambush) :
    (session.rigged onCreate onUpdate).backend.InOrder rows :=
  ⟨inOrder.keeps, inOrder.access⟩

section

variable [Platform]

/-- A login or reconciliation that succeeds while nothing lies in wait for look-ups answers with
what the one row of its uid shows, and that row has the name it asserts.  Another one for the same
uid and name answers with the same user and leaves the session as it is.  It asks for no user to be
stored or changed, for whatever lies in wait for that stays there. -/
theorem repeated_login_free (reachable : session.Reachable)
    (idle : session.backend.onFind.times = 0) {step : Step} {identity : Identity}
    (asserted : step.identity? session.base = some identity) {user : User}
    (answered : (session.step step).2.result = .ok (.user user)) :
    let next := (session.step step).1
    ∃ rows row, next.backend.store.rows = some rows ∧ row ∈ rows ∧
      (∀ other ∈ rows, other.federationKey = identity.uid ↔ other = row) ∧
      user = row.toUser ∧ user.username = identity.username ∧
      ∀ again same, Step.identity? next.base again = some same → same.uid = identity.uid →
        same.username = identity.username → ∀ onCreate onUpdate,
          let rigged := next.rigged onCreate onUpdate
          (rigged.step again).2.result = .ok (.user user) ∧ (rigged.step again).1 = rigged := by
  intro next
  obtain ⟨principal, next_eq, result_eq⟩ := step_of_identity? asserted
  have succeeded := result_of_answered (result_eq.symm.trans answered)
  -- Without a table nobody is reconciled, so there are rows to go by.
  rcases reachable.inOrder_or_tableless with tableless | ⟨before, inOrder⟩
  · exact absurd succeeded (tableless.reconcile_refused identity principal user)
  · obtain ⟨rows, afterInOrder, reconciled⟩ := reconcile_cases inOrder identity principal
    obtain ⟨row, rowMem, key, name, rfl⟩ := reconciled.exists_row succeeded
    have nextInOrder : next.backend.InOrder rows := by
      simpa only [next, next_eq] using afterInOrder
    have nextIdle : next.backend.onFind.times = 0 := by
      simp only [next, next_eq, onFind_reconcile, Ambush.spent_eq_self idle, idle]
    refine ⟨rows, row, nextInOrder.keeps.rows_eq, rowMem, ?_, rfl, name, ?_⟩
    · intro other otherMem
      constructor
      · intro sameKey
        exact nextInOrder.keeps.orderly.eq_of_key otherMem rowMem (sameKey.trans key.symm)
      · rintro rfl
        exact key
    · intro again same assertedAgain sameUid sameName onCreate onUpdate rigged
      have assertedRigged : again.identity? rigged.base = some same := assertedAgain
      obtain ⟨other, again_eq, againResult⟩ := step_of_identity? assertedRigged
      have resolved := reconcile_of_resolved (inOrder_rigged nextInOrder onCreate onUpdate)
        nextIdle rowMem (key.trans sameUid.symm) (name.trans sameName.symm) other
      constructor
      · rw [againResult, resolved]
        rfl
      · rw [again_eq, resolved]

end

section

open scoped Platform

/-- Somebody whose user was written directly, with an e-mail of its own, loses the name in a login;
the next one is free. -/
theorem login_free_after_rename :
    let steps : List Step :=
      [.create { federationKey := "u", username := "n", email := "n@example.com" }]
    let session := ((start "http://verify.example.com" Kind.database.empty
      (RandomSource.arithmetic 0)).run steps).1
    let login : Step := .reconcile { uid := "u", username := [] } .unnamed
    let user : User :=
      { id := some 1, federationKey := "u", username := [], email := "n@example.com" }
    session.Reachable ∧ session.backend.onFind.times = 0 ∧
      (session.step login).2.result = .ok (.user user) ∧
      (((session.step login).1.rigged ⟨.absent, 1⟩ ⟨.absent, 1⟩).step login).2.result =
        .ok (.user user) := by
  intro steps session login user
  have reachable : session.Reachable := ⟨_, _, _, steps, .empty .database, rfl⟩
  have asserted : login.identity? session.base = some { uid := "u", username := [] } := rfl
  have answered : (session.step login).2.result = .ok (.user user) := rfl
  obtain ⟨_, _, _, _, _, _, _, free⟩ := repeated_login_free reachable rfl asserted answered
  exact ⟨reachable, rfl, answered, (free login _ rfl rfl rfl ⟨.absent, 1⟩ ⟨.absent, 1⟩).1⟩

end

end Session

end FederatedLogin

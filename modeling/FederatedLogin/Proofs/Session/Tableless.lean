import FederatedLogin.Proofs.Session.Advance

/-!
# Databases without their table

A database whose table was not made refuses every new user and every change, and finds nobody.  No
step but the making of the table gets it out of this, and from then on it is in order.  So every
session that starts without users is either in order or still without the table.
-/

namespace FederatedLogin

open FederatedLogin.Store FederatedLogin.Text

/-- A backend whose database has no table yet. -/
structure Backend.Tableless (backend : Backend) : Prop where
  store : backend.store = .database none
  access : backend.access = {}

/-- A store at the start of a session: without users, and perhaps without the table for them. -/
inductive Store.Fresh : Store → Prop where
  | empty (kind : Kind) : Fresh kind.empty
  | tableless : Fresh (.database none)

namespace Backend.Tableless

variable {backend : Backend}

/-- A look-up finds nobody. -/
theorem find_cases (tableless : backend.Tableless) (key : CodeString) :
    ∃ result, backend.find key =
        ⟨result, [], { backend with onFind := backend.onFind.spent }⟩ ∧
      ∀ user, result ≠ .ok (some user) := by
  cases struck : backend.onFind.strike? with
  | none =>
      refine ⟨_, find_of_reached tableless.access struck key, ?_⟩
      intro user isUser
      rw [tableless.store] at isUser
      cases isUser
  | some fault =>
      cases fault with
      | absent =>
          refine ⟨.ok none, by simp only [find, struck], ?_⟩
          intro user isUser
          cases isUser
      | failing failure =>
          refine ⟨.error failure, by simp only [find, struck], ?_⟩
          intro user isUser
          cases isUser

theorem create_eq (tableless : backend.Tableless) (user : User) :
    ∃ failure, backend.create user =
      ⟨.error failure, [], { backend with onCreate := backend.onCreate.spent }⟩ := by
  by_cases failing : ∃ failure, backend.onCreate.strike? = some (.failing failure)
  · obtain ⟨failure, struck⟩ := failing
    exact ⟨failure, by simp only [create, struck]⟩
  · have refused : backend.store.create {} user = .error (.storage .createFailed) backend.store := by
      rw [tableless.store]
      rfl
    exact ⟨_, create_of_error tableless.access (not_exists.mp failing) refused⟩

theorem update_eq (tableless : backend.Tableless) (user : User) :
    ∃ failure, backend.update user =
      ⟨.error failure, [], { backend with onUpdate := backend.onUpdate.spent }⟩ := by
  by_cases failing : ∃ failure, backend.onUpdate.strike? = some (.failing failure)
  · obtain ⟨failure, struck⟩ := failing
    exact ⟨failure, by simp only [update, struck]⟩
  · have refused : backend.store.update {} user = .error (.storage .updateFailed) backend.store := by
      rw [tableless.store]
      rfl
    exact ⟨_, update_of_error tableless.access (not_exists.mp failing) refused⟩

theorem enroll (tableless : backend.Tableless) (identity : Identity) (principal : Principal) :
    (FederatedLogin.enroll identity principal backend).backend.Tableless := by
  have drawn : { backend with random := (newUser identity backend.random).2 }.Tableless :=
    ⟨tableless.store, tableless.access⟩
  obtain ⟨failure, refused⟩ := drawn.create_eq (newUser identity backend.random).1
  simp only [FederatedLogin.enroll, refused]
  exact ⟨tableless.store, tableless.access⟩

theorem reconcile (tableless : backend.Tableless) (identity : Identity) (principal : Principal) :
    (FederatedLogin.reconcile identity principal backend).backend.Tableless := by
  obtain ⟨result, found, nobody⟩ := tableless.find_cases identity.uid
  have lookedUp : { backend with onFind := backend.onFind.spent }.Tableless :=
    ⟨tableless.store, tableless.access⟩
  simp only [FederatedLogin.reconcile, found]
  cases result with
  | error failure => exact lookedUp
  | ok user? =>
      cases user? with
      | none => exact lookedUp.enroll identity principal
      | some user => exact absurd rfl (nobody user)

/-- Without a table nobody is reconciled. -/
theorem reconcile_refused (tableless : backend.Tableless) (identity : Identity)
    (principal : Principal) (user : User) :
    (FederatedLogin.reconcile identity principal backend).result ≠ .ok user := by
  obtain ⟨result, found, nobody⟩ := tableless.find_cases identity.uid
  simp only [FederatedLogin.reconcile, found]
  cases result with
  | error failure => simp [Outcome.failed]
  | ok user? =>
      cases user? with
      | none =>
          have drawn : Backend.Tableless { backend with
              onFind := backend.onFind.spent
              random := (newUser identity backend.random).2 } :=
            ⟨tableless.store, tableless.access⟩
          obtain ⟨failure, refused⟩ := drawn.create_eq (newUser identity backend.random).1
          simp [FederatedLogin.enroll, refused, Outcome.failed]
      | some existing => exact absurd rfl (nobody existing)

end Backend.Tableless

namespace Session

variable [Platform] {session : Session}

theorem step_tableless (tableless : session.backend.Tableless) {step : Step}
    (other : step ≠ .createSchema) : (session.step step).1.backend.Tableless := by
  cases step with
  | login credential reply =>
      cases verified : (Verification.verify session.base credential reply).result with
      | error failure =>
          simpa only [step, after, login_of_error session.backend verified] using tableless
      | ok identity =>
          simpa only [step, after, login_of_ok session.backend verified] using
            tableless.reconcile identity credential.principal
  | verify credential reply => exact tableless
  | reconcile identity principal => exact tableless.reconcile identity principal
  | create user =>
      obtain ⟨failure, refused⟩ := tableless.create_eq user
      simp only [step, after, refused]
      exact ⟨tableless.store, tableless.access⟩
  | update user =>
      obtain ⟨failure, refused⟩ := tableless.update_eq user
      simp only [step, after, refused]
      exact ⟨tableless.store, tableless.access⟩
  | find key =>
      obtain ⟨result, found, _⟩ := tableless.find_cases key
      simp only [step, after, found]
      exact ⟨tableless.store, tableless.access⟩
  | size => exact tableless
  | createSchema => exact absurd rfl other
  | plant operation ambush => cases operation <;> exact ⟨tableless.store, tableless.access⟩

/-- The making of the table puts a session in order. -/
theorem step_createSchema (tableless : session.backend.Tableless) :
    (session.step .createSchema).1.backend.InOrder [] := by
  refine ⟨?_, tableless.access⟩
  simp only [step, after, tableless.store]
  exact .database Orderly.nil (by simp)

/-- A session that starts without users is in order at every point, or its database has no table
yet. -/
theorem run_inOrder_or_tableless (steps : List Step) (session : Session)
    (settled : session.backend.Tableless ∨ ∃ rows, session.backend.InOrder rows) :
    (session.run steps).1.backend.Tableless ∨
      ∃ rows, (session.run steps).1.backend.InOrder rows := by
  induction steps generalizing session with
  | nil => exact settled
  | cons first rest ih =>
      apply ih
      rcases settled with tableless | ⟨rows, inOrder⟩
      · by_cases makes : first = .createSchema
        · subst makes
          exact .inr ⟨[], step_createSchema tableless⟩
        · exact .inl (step_tableless tableless makes)
      · obtain ⟨after, afterInOrder, _⟩ := step_advances inOrder first
        exact .inr ⟨after, afterInOrder⟩

omit [Platform] in
theorem start_inOrder_or_tableless (base : String) {store : Store} (fresh : store.Fresh)
    (random : RandomSource) : (start base store random).backend.Tableless ∨
      ∃ rows, (start base store random).backend.InOrder rows := by
  cases fresh with
  | empty kind => exact .inr ⟨[], start_inOrder base kind random⟩
  | tableless => exact .inl ⟨rfl, rfl⟩

/-! ## Reachable sessions -/

/-- A session that steps lead to from one without users. -/
structure Reachable (session : Session) : Prop where
  exists_run : ∃ base store random steps, Store.Fresh store ∧
    session = ((start base store random).run steps).1

theorem Reachable.inOrder_or_tableless (reachable : session.Reachable) :
    session.backend.Tableless ∨ ∃ rows, session.backend.InOrder rows := by
  obtain ⟨base, store, random, steps, fresh, rfl⟩ := reachable.exists_run
  exact run_inOrder_or_tableless steps _ (start_inOrder_or_tableless base fresh random)

/-- A reachable session that has rows to show is in order with them. -/
theorem Reachable.inOrder {rows : List Row} (reachable : session.Reachable)
    (rows_eq : session.backend.store.rows = some rows) : session.backend.InOrder rows := by
  rcases reachable.inOrder_or_tableless with tableless | ⟨kept, inOrder⟩
  · rw [tableless.store] at rows_eq
    cases rows_eq
  · have same := inOrder.keeps.rows_eq.symm.trans rows_eq
    rwa [Option.some.inj same] at inOrder

end Session

end FederatedLogin

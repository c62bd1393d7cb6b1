import FederatedLogin.Login.Session
import FederatedLogin.Proofs.Store.Backend

/-!
# Logins on a table

A backend on a table works on a database that can be used in full, and nothing lies in wait for it.
After a login it is a backend on a table again.  So a table and the randomness are all that one
login leaves to the next.
-/

namespace FederatedLogin

open FederatedLogin.Store FederatedLogin.Text

/-- A backend on the table of a database. -/
def Backend.onTable (table : Table) (random : RandomSource) : Backend :=
  { store := .database (some table), random }

/-- A backend on some table. -/
def Backend.IsOnTable (backend : Backend) : Prop :=
  ∃ table random, backend = .onTable table random

variable {backend : Backend}

namespace Backend

theorem clear_onTable (table : Table) (random : RandomSource) : (onTable table random).Clear :=
  ⟨rfl, rfl, rfl⟩

namespace IsOnTable

theorem drawn (onTable : backend.IsOnTable) (random : RandomSource) :
    IsOnTable { backend with random } := by
  obtain ⟨table, _, rfl⟩ := onTable
  exact ⟨table, random, rfl⟩

theorem find (onTable : backend.IsOnTable) (key : CodeString) :
    (backend.find key).backend.IsOnTable := by
  obtain ⟨table, random, rfl⟩ := onTable
  exact ⟨table, random, rfl⟩

theorem create (onTable : backend.IsOnTable) (user : User) :
    (backend.create user).backend.IsOnTable := by
  obtain ⟨table, random, rfl⟩ := onTable
  rw [create_of_reached rfl (clear_onTable table random).create_reached]
  cases created : (Backend.onTable table random).store.create {} user with
  | error failure left =>
      obtain rfl := Store.create_left created
      exact ⟨table, random, rfl⟩
  | ok id after =>
      obtain ⟨made, _, rfl⟩ := Store.within_eq_ok created
      exact ⟨made, random, rfl⟩

theorem update (onTable : backend.IsOnTable) (user : User) :
    (backend.update user).backend.IsOnTable := by
  obtain ⟨table, random, rfl⟩ := onTable
  rw [update_of_reached rfl (clear_onTable table random).update_reached]
  cases updated : (Backend.onTable table random).store.update {} user with
  | error failure left =>
      obtain rfl := Store.update_left updated
      exact ⟨table, random, rfl⟩
  | ok answer after =>
      obtain ⟨made, _, rfl⟩ := Store.within_eq_ok updated
      exact ⟨made, random, rfl⟩

end IsOnTable

end Backend

theorem isOnTable_enroll (onTable : backend.IsOnTable) (identity : Identity)
    (principal : Principal) : (enroll identity principal backend).backend.IsOnTable := by
  have created := (onTable.drawn (newUser identity backend.random).2).create
    (newUser identity backend.random).1
  simp only [enroll]
  split <;> exact created

theorem isOnTable_rename (onTable : backend.IsOnTable) (existing : User) (identity : Identity)
    (principal : Principal) : (rename existing identity principal backend).backend.IsOnTable := by
  have updated := (onTable.drawn (renamedUser existing identity.username backend.random).2).update
    (renamedUser existing identity.username backend.random).1
  simp only [rename]
  split <;> exact updated

theorem isOnTable_reconcile (onTable : backend.IsOnTable) (identity : Identity)
    (principal : Principal) : (reconcile identity principal backend).backend.IsOnTable := by
  have found := onTable.find identity.uid
  simp only [reconcile]
  split
  · exact found
  · exact isOnTable_enroll found identity principal
  · split
    · exact found
    · exact isOnTable_rename found _ identity principal

variable [Platform]

/-- A login on a table leaves a backend on a table. -/
theorem isOnTable_login (onTable : backend.IsOnTable) (base : String) (credential : Credential)
    (reply : Verification.Reply) :
    (login base credential reply backend).outcome.backend.IsOnTable := by
  cases verified : (Verification.verify base credential reply).result with
  | error failure =>
      rw [login_of_error backend verified]
      exact onTable
  | ok identity =>
      rw [login_of_ok backend verified]
      exact isOnTable_reconcile onTable identity credential.principal

end FederatedLogin

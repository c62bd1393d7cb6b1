import FederatedLogin.Login.Session
import FederatedLogin.Proofs.Database.Opening
import FederatedLogin.Proofs.Login.Settled

/-!
# The identifiers of users

A database keeps identifiers in a column of 64 bits.  So the user that a login returns has an
identifier that fits this column, if the identifiers in the store do and there is room for one more.
-/

namespace FederatedLogin

open FederatedLogin.Store FederatedLogin.Verification FederatedLogin.Text

/-- A table whose identifiers fit their column, with room for one more. -/
structure Store.Table.HasRoom (table : Table) : Prop where
  fits : ∀ row ∈ table.rows, Table.fitsColumn (some (row.id : Int)) = true
  nextFits : Table.fitsColumn (some ((table.rows.length + 1 : Nat) : Int)) = true

/-- A store at the start of a run: in memory and empty, or in a table that has room. -/
inductive Store.HasRoom : Store → Prop where
  | memory : HasRoom (.memory .empty)
  | database {table : Table} (room : table.HasRoom) : HasRoom (.database (some table))

/-- A user with an identifier that fits its column. -/
def User.IsIdentified (user : User) : Prop :=
  ∃ id : Int, user.id = some id ∧ Table.fitsColumn (some id) = true

/-! ## Stores -/

namespace Store

variable {store changed : Store} {access : Access} {user : User} {key : CodeString} {id : Nat}

theorem Table.HasRoom.empty : Table.empty.HasRoom where
  fits := fun _ rowMem => nomatch rowMem
  nextFits := by decide

theorem HasRoom.find (room : store.HasRoom) (found : store.find access key = .ok (some user)) :
    user.IsIdentified := by
  cases room with
  | memory => cases found
  | @database table room =>
      rw [Store.find, Table.find] at found
      split at found
      · cases found
      · split at found
        · cases found
        · next row isRow =>
            split at found <;> cases found
            exact ⟨row.id, rfl, room.fits row (List.mem_of_find?_eq_some isRow)⟩

theorem HasRoom.create (room : store.HasRoom)
    (created : store.create access user = .ok id changed) :
    Table.fitsColumn (some (id : Int)) = true := by
  cases room with
  | memory =>
      cases created
      decide
  | @database table room =>
      obtain ⟨after, made, _⟩ := within_eq_ok created
      rw [Table.create_eq] at made
      repeat' split at made
      all_goals cases made
      exact room.nextFits

end Store

/-! ## Logins -/

variable {backend : Backend} {identity : Identity} {principal : Principal} {user : User}

theorem isIdentified_of_enroll (room : backend.store.HasRoom)
    (enrolled : (enroll identity principal backend).result = .ok user) : user.IsIdentified := by
  rw [enroll] at enrolled
  cases made : newUser identity backend.random with
  | mk draft random =>
      simp only [made] at enrolled
      cases created : ({ backend with random }.create draft).result with
      | error failure => simp [created, Outcome.failed] at enrolled
      | ok id =>
          simp only [created] at enrolled
          cases enrolled
          obtain ⟨changed, stored⟩ := Backend.of_create created
          exact ⟨id, rfl, room.create stored⟩

theorem isIdentified_of_rename {existing : User} (identified : existing.IsIdentified)
    (renamed : (rename existing identity principal backend).result = .ok user) :
    user.IsIdentified := by
  simp only [user_of_rename renamed, renamedUser, User.IsIdentified]
  exact identified

/-- The user that a reconciliation returns has an identifier that fits its column. -/
theorem isIdentified_of_reconcile (room : backend.store.HasRoom)
    (reconciled : (reconcile identity principal backend).result = .ok user) :
    user.IsIdentified := by
  rw [reconcile] at reconciled
  cases found : (backend.find identity.uid).result with
  | error failure => simp [found, Outcome.failed] at reconciled
  | ok result =>
      cases result with
      | none =>
          simp only [found] at reconciled
          rw [← Backend.store_find backend identity.uid] at room
          exact isIdentified_of_enroll room reconciled
      | some existing =>
          have identified := room.find (Backend.of_find found)
          simp only [found] at reconciled
          split at reconciled
          · cases reconciled
            exact identified
          · exact isIdentified_of_rename identified reconciled

variable [Platform]

theorem isIdentified_of_login {base : String} {credential : Credential} {reply : Reply}
    (room : backend.store.HasRoom)
    (returned : (login base credential reply backend).outcome.result = .ok user) :
    user.IsIdentified := by
  cases verified : (verify base credential reply).result with
  | error failure =>
      rw [login_of_error backend verified] at returned
      cases returned
  | ok identity =>
      rw [login_of_ok backend verified] at returned
      exact isIdentified_of_reconcile room returned

end FederatedLogin

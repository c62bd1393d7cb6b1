import FederatedLogin.Event
import FederatedLogin.Store.Memory
import FederatedLogin.Store.Table

/-!
# User stores

A store is the one in memory or a database, whose table may not have been made yet.  Whether an
operation gives an answer or fails, it leaves a store behind.
-/

namespace FederatedLogin

open FederatedLogin.Store

/-- A user store. -/
inductive Store where
  | memory (memory : Memory)
  | database (table : Option Table)

namespace Store

/-- The rows of a store; a database without its table has none to show. -/
def rows : Store → Option (List Row)
  | .memory kept => some kept.rows
  | .database table => table.map Table.rows

/-- How many users the store in memory holds. -/
def size : Store → Nat
  | .memory kept => kept.users.length
  | .database table => (table.map fun table => table.rows.length).getD 0

/-- Makes the table of a database if it is not there. -/
def createSchema : Store → Store
  | .memory kept => .memory kept
  | .database table => .database (some (table.getD Table.empty))

/-- The user under a federation key. -/
def find (store : Store) (access : Access) (key : Text.CodeString) : Except Failure (Option User) :=
  match store with
  | .memory kept => kept.find key
  | .database (some table) => table.find access key
  | .database none => .error (.storage .lookupFailed)

/-- The database with a table. -/
def ofTable (table : Table) : Store :=
  .database (some table)

/-- What came of an operation on a part of something, seen as an operation on the whole. -/
def within {Part Whole α : Type} (whole : Part → Whole) :
    EStateM.Result Failure Part α → EStateM.Result Failure Whole α
  | .ok answer left => .ok answer (whole left)
  | .error failure left => .error failure (whole left)

/-- Stores a new user and gives its identifier. -/
def create (store : Store) (access : Access) (user : User) : EStateM.Result Failure Store Nat :=
  match store with
  | .memory kept => within .memory (kept.create user)
  | .database (some table) => within ofTable (table.create access user)
  | .database none => .error (.storage .createFailed) (.database none)

/-- Changes the name and the e-mail of a stored user. -/
def update (store : Store) (access : Access) (user : User) : EStateM.Result Failure Store Unit :=
  match store with
  | .memory kept => within .memory (kept.update user)
  | .database (some table) => within ofTable (table.update access user)
  | .database none => .error (.storage .updateFailed) (.database none)

/-! ## Failures -/

variable {store left : Store} {access : Access} {user : User} {failure : Failure}

/-- What leaves the part as it was leaves the whole as it was. -/
theorem within_left {Part Whole α : Type} {whole : Part → Whole} {before : Part} {after : Whole}
    {result : EStateM.Result Failure Part α}
    (kept : ∀ left, result = .error failure left → left = before)
    (failed : within whole result = .error failure after) : after = whole before := by
  cases result with
  | ok answer left => cases failed
  | error refusal left =>
      cases failed
      exact congrArg whole (kept left rfl)

theorem within_eq_ok {Part Whole α : Type} {whole : Part → Whole} {answer : α} {after : Whole}
    {result : EStateM.Result Failure Part α} (done : within whole result = .ok answer after) :
    ∃ left, result = .ok answer left ∧ after = whole left := by
  cases result with
  | ok given left =>
      cases done
      exact ⟨left, rfl, rfl⟩
  | error failure left => cases done

/-- A new user that is refused leaves the store as it was. -/
theorem create_left (refused : store.create access user = .error failure left) : left = store := by
  cases store with
  | memory kept => exact within_left (fun _ => Memory.create_left) refused
  | database table =>
      cases table with
      | none => exact (EStateM.Result.error.inj refused).2.symm
      | some table =>
          have kept : left = ofTable table :=
            within_left (fun _ => Table.inTransaction_left) refused
          exact kept

/-- A change that is refused leaves the store as it was. -/
theorem update_left (refused : store.update access user = .error failure left) : left = store := by
  cases store with
  | memory kept => exact within_left (fun _ => Memory.update_left) refused
  | database table =>
      cases table with
      | none => exact (EStateM.Result.error.inj refused).2.symm
      | some table =>
          have kept : left = ofTable table :=
            within_left (fun _ => Table.inTransaction_left) refused
          exact kept

end Store

end FederatedLogin

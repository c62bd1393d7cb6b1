import FederatedLogin.Proofs.Store.Backend

/-!
# How stores fail

A store fails with a failure of its own making, or with trouble that lies outside the family of
failures.  A backend does no worse, as long as nothing worse lies in wait for its operations.
-/

namespace FederatedLogin

open FederatedLogin.Store FederatedLogin.Text

/-- Whether a failure is one that a store can have. -/
def Failure.isOfStore (failure : Failure) : Bool :=
  failure.isStorage || failure.isOutside

/-- A result that, if it is a failure, is one that a store can have. -/
def OfStore {α : Type} (result : Except Failure α) : Prop :=
  ∀ failure, result = .error failure → failure.isOfStore

namespace OfStore

variable {α : Type} {failure : Failure}

theorem ok (value : α) : OfStore (.ok value) :=
  nofun

theorem error (ofStore : failure.isOfStore) : OfStore (.error failure : Except Failure α) := by
  intro raised failed
  cases failed
  exact ofStore

end OfStore

/-- An operation that, if it fails, fails with a failure that a store can have. -/
def FailsOfStore {σ α : Type} (result : EStateM.Result Failure σ α) : Prop :=
  ∀ failure left, result = .error failure left → failure.isOfStore

namespace FailsOfStore

variable {σ α : Type}

theorem ok (answer : α) (left : σ) : FailsOfStore (.ok answer left) :=
  nofun

theorem error {failure : Failure} (ofStore : failure.isOfStore) (left : σ) :
    FailsOfStore (.error failure left : EStateM.Result Failure σ α) := by
  intro raised after failed
  cases failed
  exact ofStore

theorem within {Whole : Type} {result : EStateM.Result Failure σ α}
    (failsOfStore : FailsOfStore result) (whole : σ → Whole) :
    FailsOfStore (Store.within whole result) := by
  cases result with
  | ok answer left => exact .ok answer _
  | error failure left => exact .error (failsOfStore failure left rfl) _

end FailsOfStore

/-! ## The store -/

namespace Store

theorem isOfStore_duplicateKeyFailure (message : String) (key email : CodeString) :
    (duplicateKeyFailure message key email).isOfStore := by
  simp only [duplicateKeyFailure]
  split <;> rfl

theorem Memory.ofStore_find (memory : Memory) (key : CodeString) : OfStore (memory.find key) := by
  rw [find.eq_def]
  split
  · exact .ok _
  · split
    · exact .ok _
    · exact .error rfl

theorem Memory.failsOfStore_create (memory : Memory) (user : User) :
    FailsOfStore (memory.create user) := by
  rw [create_eq]
  repeat' split
  all_goals first | exact .error rfl _ | exact .ok _ _

theorem Memory.failsOfStore_update (memory : Memory) (user : User) :
    FailsOfStore (memory.update user) := by
  rw [update_eq]
  repeat' split
  all_goals first | exact .error rfl _ | exact .ok _ _

theorem Table.ofStore_find (table : Table) (access : Access) (key : CodeString) :
    OfStore (table.find access key) := by
  rw [find.eq_def]
  split
  · exact .error rfl
  · split
    · exact .ok _
    · split
      · exact .ok _
      · exact .error rfl

theorem Table.failsOfStore_create (table : Table) (access : Access) (user : User) :
    FailsOfStore (table.create access user) := by
  rw [create_eq]
  repeat' split
  all_goals
    first
      | exact .error rfl _
      | exact .error (isOfStore_duplicateKeyFailure _ _ _) _
      | exact .ok _ _

theorem Table.failsOfStore_update (table : Table) (access : Access) (user : User) :
    FailsOfStore (table.update access user) := by
  rw [update_eq]
  repeat' split
  all_goals
    first
      | exact .error rfl _
      | exact .error (isOfStore_duplicateKeyFailure _ _ _) _
      | exact .ok _ _

theorem ofStore_find (store : Store) (access : Access) (key : CodeString) :
    OfStore (store.find access key) := by
  cases store with
  | memory kept => exact kept.ofStore_find key
  | database table =>
      cases table with
      | none => exact .error rfl
      | some table => exact table.ofStore_find access key

theorem failsOfStore_create (store : Store) (access : Access) (user : User) :
    FailsOfStore (store.create access user) := by
  cases store with
  | memory kept => exact (kept.failsOfStore_create user).within _
  | database table =>
      cases table with
      | none => exact .error rfl _
      | some table => exact (table.failsOfStore_create access user).within _

theorem failsOfStore_update (store : Store) (access : Access) (user : User) :
    FailsOfStore (store.update access user) := by
  cases store with
  | memory kept => exact (kept.failsOfStore_update user).within _
  | database table =>
      cases table with
      | none => exact .error rfl _
      | some table => exact (table.failsOfStore_update access user).within _

end Store

/-! ## The backend -/

/-- A fault in wait that, if it is a failure, is one that a store can have. -/
def Ambush.OfStore (ambush : Ambush) : Prop :=
  ∀ failure, ambush.strike? = some (.failing failure) → failure.isOfStore

namespace Ambush

variable {ambush : Ambush}

theorem OfStore.of_idle (idle : ambush.times = 0) : ambush.OfStore := by
  intro failure struck
  rw [strike?_eq_none idle] at struck
  cases struck

/-- What lies in wait after a call lay in wait before it. -/
theorem OfStore.spent (ofStore : ambush.OfStore) : ambush.spent.OfStore := by
  intro failure struck
  apply ofStore failure
  by_cases idle : ambush.times = 0
  · rwa [spent_eq_self idle] at struck
  · rw [strike?, Option.ite_none_left_eq_some] at struck
    rw [strike?, if_neg idle]
    exact struck.2

end Ambush

/-- A backend in wait for whose operations lie only failures that a store can have. -/
structure Backend.Plain (backend : Backend) : Prop where
  onFind : backend.onFind.OfStore
  onCreate : backend.onCreate.OfStore
  onUpdate : backend.onUpdate.OfStore

namespace Backend

variable {backend : Backend}

theorem Clear.plain (clear : backend.Clear) : backend.Plain := by
  constructor
  · exact .of_idle clear.onFind
  · exact .of_idle clear.onCreate
  · exact .of_idle clear.onUpdate

theorem ofStore_find (plain : backend.Plain) (key : CodeString) :
    OfStore (backend.find key).result := by
  simp only [find]
  split
  · exact .ok _
  · next failure struck => exact .error (plain.onFind failure struck)
  · exact backend.store.ofStore_find backend.access key

theorem ofStore_create (plain : backend.Plain) (user : User) :
    OfStore (backend.create user).result := by
  have creating := backend.store.failsOfStore_create backend.access user
  simp only [create]
  split
  · next failure struck => exact .error (plain.onCreate failure struck)
  · split
    · exact .ok _
    · next failure left failed => exact .error (creating failure left failed)

theorem ofStore_update (plain : backend.Plain) (user : User) :
    OfStore (backend.update user).result := by
  have updating := backend.store.failsOfStore_update backend.access user
  simp only [update]
  split
  · next failure struck => exact .error (plain.onUpdate failure struck)
  · split
    · exact .ok _
    · next failure left failed => exact .error (updating failure left failed)

end Backend

end FederatedLogin

import FederatedLogin.Failure
import FederatedLogin.Store.Index
import FederatedLogin.Store.Row

/-!
# The store in memory

Users stand under their identifiers, and two further indexes lead from federation keys and from
e-mails to identifiers.  The three have to be kept in step by every change; where one of them leads
nowhere, the operation fails instead of guessing.

An operation looks at the indexes and changes them one after the other, and where it fails, whatever
it has changed by then stays changed.  That every failure comes before the first change is what
`create_eq` and `update_eq` say.
-/

namespace FederatedLogin.Store

open FederatedLogin.Text

/-- The store in memory. -/
structure Memory where
  users : Index Nat User := []
  byKey : Index CodeString Nat := []
  byEmail : Index CodeString Nat := []
  nextId : Nat := 1

namespace Memory

/-- The store without users. -/
def empty : Memory :=
  {}

/-- The rows of the store, in the order in which the users came in. -/
def rows (memory : Memory) : List Row :=
  memory.users.map fun (id, user) => Row.ofUser id user

/-- The user under a federation key. -/
def find (memory : Memory) (key : CodeString) : Except Failure (Option User) :=
  match memory.byKey.get? key with
  | none => .ok none
  | some id =>
      match memory.users.get? id with
      | some user => .ok (some user)
      | none => .error (.outside .entryMissing)

/-- The user under an identifier that may be missing or be none that is ever given out. -/
def userUnder? (memory : Memory) : Option Int → Option (Nat × User)
  | some (.ofNat (id + 1)) => (memory.users.get? (id + 1)).map fun user => (id + 1, user)
  | _ => none

/-- Stores a new user under the next identifier.  The federation key is looked at before the
e-mail, and both before any index is changed. -/
def create (memory : Memory) (user : User) : EStateM.Result Failure Memory Nat :=
  EStateM.run (s := memory) do
    if ((← get).byKey.get? user.federationKey).isSome then
      throw (.duplicateKey "federation_key" user.federationKey)
    if ((← get).byEmail.get? user.email).isSome then
      throw (.duplicateKey "email" user.email)
    let id := (← get).nextId
    modify fun memory => { memory with nextId := id + 1 }
    modify fun memory => { memory with users := memory.users.put id { user with id := some id } }
    modify fun memory => { memory with byKey := memory.byKey.put user.federationKey id }
    modify fun memory => { memory with byEmail := memory.byEmail.put user.email id }
    return id

/-- Takes an e-mail out of its index, in which it has to be. -/
def releaseEmail (email : CodeString) : EStateM Failure Memory Unit := do
  if ((← get).byEmail.get? email).isNone then throw (.outside .entryMissing)
  modify fun memory => { memory with byEmail := memory.byEmail.remove email }

/-- Changes the name and the e-mail of a stored user. -/
def update (memory : Memory) (user : User) : EStateM.Result Failure Memory Unit :=
  EStateM.run (s := memory) do
    match (← get).userUnder? user.id with
    | none => throw (.storage (.noSuchUser user.id))
    | some (id, stored) =>
        if stored.federationKey ≠ user.federationKey then throw (.storage .keyImmutable)
        if ((← get).byEmail.get? user.email).any (· ≠ id) then
          throw (.duplicateKey "email" user.email)
        releaseEmail stored.email
        modify fun memory => { memory with byEmail := memory.byEmail.put user.email id }
        modify fun memory => { memory with
          users := memory.users.put id
            { stored with username := user.username, email := user.email } }

/-! ## What the operations come to -/

/-- The store with a new user under the next identifier. -/
def insert (memory : Memory) (user : User) : Memory where
  users := memory.users.put memory.nextId { user with id := some (memory.nextId : Int) }
  byKey := memory.byKey.put user.federationKey memory.nextId
  byEmail := memory.byEmail.put user.email memory.nextId
  nextId := memory.nextId + 1

/-- The store with another name and e-mail of the user under an identifier.  The old e-mail is free
again. -/
def rename (memory : Memory) (id : Nat) (stored : User) (username email : CodeString) : Memory :=
  { memory with
    users := memory.users.put id { stored with username, email }
    byEmail := (memory.byEmail.remove stored.email).put email id }

/-- A new user is refused before anything is changed, or entered in all three indexes. -/
theorem create_eq (memory : Memory) (user : User) :
    memory.create user =
      if (memory.byKey.get? user.federationKey).isSome then
        .error (.duplicateKey "federation_key" user.federationKey) memory
      else if (memory.byEmail.get? user.email).isSome then
        .error (.duplicateKey "email" user.email) memory
      else
        .ok memory.nextId (memory.insert user) := by
  simp only [create, EStateM.run_bind, EStateM.run_get]
  split
  · rfl
  · simp only [EStateM.run_bind, EStateM.run_get]
    split <;> rfl

theorem run_releaseEmail (memory : Memory) (email : CodeString) :
    (releaseEmail email).run memory =
      if (memory.byEmail.get? email).isNone then .error (.outside .entryMissing) memory
      else .ok () { memory with byEmail := memory.byEmail.remove email } := by
  simp only [releaseEmail, EStateM.run_bind, EStateM.run_get]
  split <;> rfl

/-- A change is refused before anything is changed, or made in both indexes that it concerns. -/
theorem update_eq (memory : Memory) (user : User) :
    memory.update user =
      match memory.userUnder? user.id with
      | none => .error (.storage (.noSuchUser user.id)) memory
      | some (id, stored) =>
          if stored.federationKey ≠ user.federationKey then .error (.storage .keyImmutable) memory
          else if (memory.byEmail.get? user.email).any (· ≠ id) then
            .error (.duplicateKey "email" user.email) memory
          else if (memory.byEmail.get? stored.email).isNone then
            .error (.outside .entryMissing) memory
          else
            .ok () (memory.rename id stored user.username user.email) := by
  simp only [update, EStateM.run_bind, EStateM.run_get]
  cases memory.userUnder? user.id with
  | none => rfl
  | some entry =>
      obtain ⟨id, stored⟩ := entry
      by_cases differ : stored.federationKey ≠ user.federationKey
      · simp only [if_pos differ]
        rfl
      · by_cases taken : (memory.byEmail.get? user.email).any (· ≠ id)
        · simp only [if_neg differ, if_pos taken, EStateM.run_bind, EStateM.run_get]
          rfl
        · by_cases missing : (memory.byEmail.get? stored.email).isNone
          · simp only [if_neg differ, if_neg taken, if_pos missing, EStateM.run_bind,
              EStateM.run_get, run_releaseEmail]
          · simp only [if_neg differ, if_neg taken, if_neg missing, EStateM.run_bind,
              EStateM.run_get, run_releaseEmail]
            rfl

/-- A new user that is refused leaves the store as it was. -/
theorem create_left {memory left : Memory} {user : User} {failure : Failure}
    (refused : memory.create user = .error failure left) : left = memory := by
  rw [create_eq] at refused
  repeat' split at refused
  all_goals first | exact (EStateM.Result.error.inj refused).2.symm | cases refused

/-- A change that is refused leaves the store as it was. -/
theorem update_left {memory left : Memory} {user : User} {failure : Failure}
    (refused : memory.update user = .error failure left) : left = memory := by
  rw [update_eq] at refused
  repeat' split at refused
  all_goals first | exact (EStateM.Result.error.inj refused).2.symm | cases refused

end Memory

end FederatedLogin.Store

import FederatedLogin.Proofs.Store.Orderly
import FederatedLogin.Store.Backend

/-!
# Stores do not look at passwords

A store takes a password in with its user and hands it out again, and that is all it does with it,
except that a database refuses one that cannot be encoded.  So whatever passwords are changed into,
as long as these stay as they are, an operation on the changed users comes to what it comes to on
the users as they are, changed in the same way.
-/

namespace FederatedLogin

open FederatedLogin.Store FederatedLogin.Text

/-- What the password of a user under a federation key is changed into. -/
abbrev Mask := CodeString → CodeString → CodeString

/-- Whether nothing shows through a mask of what another mask has changed. -/
def Mask.Absorbs (mask other : Mask) : Prop :=
  ∀ key password, mask key (other key password) = mask key password

/-- Whether a mask leaves a password alone that cannot be encoded, and gives no other for one that
can. -/
def Mask.KeepsRefusals (mask : Mask) : Prop :=
  ∀ key password, mask key password = password ∨
    password.isEncodable ∧ (mask key password).isEncodable

variable {mask other : Mask}

/-- A user with its password changed. -/
def User.masked (mask : Mask) (user : User) : User :=
  { user with password := mask user.federationKey user.password }

@[simp]
theorem User.masked_federationKey (user : User) :
    (user.masked mask).federationKey = user.federationKey :=
  rfl

@[simp]
theorem User.masked_username (user : User) : (user.masked mask).username = user.username :=
  rfl

@[simp]
theorem User.masked_email (user : User) : (user.masked mask).email = user.email :=
  rfl

@[simp]
theorem User.masked_id (user : User) : (user.masked mask).id = user.id :=
  rfl

theorem User.masked_masked (absorbs : mask.Absorbs other) (user : User) :
    (user.masked other).masked mask = user.masked mask := by
  simp only [masked, absorbs user.federationKey user.password]

/-- A user is refused for the same text with its password changed. -/
theorem User.unencodable?_masked (keepsRefusals : mask.KeepsRefusals) (user : User) :
    CodeString.unencodable? (user.masked mask).texts = CodeString.unencodable? user.texts := by
  rcases keepsRefusals user.federationKey user.password with same | ⟨encodable, stillEncodable⟩
  · rw [masked, same]
  · simp only [masked, texts, CodeString.unencodable?, List.find?_cons, encodable, stillEncodable,
      Bool.not_true]

/-! ## The store in memory -/

namespace Store

/-- A row with its password changed. -/
def Row.masked (mask : Mask) (row : Row) : Row :=
  { row with password := mask row.federationKey row.password }

theorem Row.masked_masked (absorbs : mask.Absorbs other) (row : Row) :
    (row.masked other).masked mask = row.masked mask := by
  simp only [masked, absorbs row.federationKey row.password]

namespace Index

variable {Key Entry Other : Type} [DecidableEq Key]

theorem get?_map (change : Entry → Other) (key : Key) (index : Index Key Entry) :
    get? key (index.map (Prod.map id change)) = (get? key index).map change := by
  induction index with
  | nil => rfl
  | cons head rest ih =>
      obtain ⟨other, old⟩ := head
      by_cases same : other = key
      · simp [get?, same]
      · simp [get?, same, ih]

theorem put_map (change : Entry → Other) (key : Key) (entry : Entry) (index : Index Key Entry) :
    put key (change entry) (index.map (Prod.map id change)) =
      (put key entry index).map (Prod.map id change) := by
  induction index with
  | nil => rfl
  | cons head rest ih =>
      obtain ⟨other, old⟩ := head
      by_cases same : other = key
      · simp [put, same]
      · simp [put, same, ih]

end Index

namespace Memory

/-- The store in memory with the passwords changed. -/
def masked (mask : Mask) (memory : Memory) : Memory :=
  { memory with users := memory.users.map (Prod.map id (User.masked mask)) }

@[simp]
theorem masked_byKey (memory : Memory) : (memory.masked mask).byKey = memory.byKey :=
  rfl

@[simp]
theorem masked_byEmail (memory : Memory) : (memory.masked mask).byEmail = memory.byEmail :=
  rfl

@[simp]
theorem masked_nextId (memory : Memory) : (memory.masked mask).nextId = memory.nextId :=
  rfl

theorem get?_masked (memory : Memory) (id : Nat) :
    (memory.masked mask).users.get? id = (memory.users.get? id).map (User.masked mask) :=
  Index.get?_map _ _ _

theorem find_masked (memory : Memory) (key : CodeString) :
    (memory.masked mask).find key = (memory.find key).map (Option.map (User.masked mask)) := by
  simp only [find, masked_byKey, get?_masked]
  cases memory.byKey.get? key with
  | none => rfl
  | some id =>
      simp only
      cases memory.users.get? id <;> rfl

theorem insert_masked (memory : Memory) (user : User) :
    (memory.masked mask).insert (user.masked mask) = (memory.insert user).masked mask := by
  have stored := Index.put_map (User.masked mask) memory.nextId
    { user with id := some (memory.nextId : Int) } memory.users
  simp only [insert, masked, ← stored]
  rfl

theorem create_masked (memory : Memory) (user : User) :
    (memory.masked mask).create (user.masked mask) =
      within (masked mask) (memory.create user) := by
  simp only [create_eq, masked_byKey, masked_byEmail, masked_nextId, User.masked_federationKey,
    User.masked_email, insert_masked]
  split
  · rfl
  · split <;> rfl

theorem userUnder?_masked (memory : Memory) (id : Option Int) :
    (memory.masked mask).userUnder? id =
      (memory.userUnder? id).map (Prod.map (fun id => id) (User.masked mask)) := by
  rw [userUnder?.eq_def, userUnder?.eq_def]
  split
  · rw [get?_masked, Option.map_map, Option.map_map]
    rfl
  · rfl

theorem rename_masked (memory : Memory) (id : Nat) (stored : User) (username email : CodeString) :
    (memory.masked mask).rename id (stored.masked mask) username email =
      (memory.rename id stored username email).masked mask := by
  have renamed := Index.put_map (User.masked mask) id { stored with username, email } memory.users
  simp only [rename, masked, ← renamed]
  rfl

theorem update_masked (memory : Memory) (user : User) :
    (memory.masked mask).update (user.masked mask) =
      within (masked mask) (memory.update user) := by
  rw [update_eq, update_eq, userUnder?_masked, User.masked_id]
  cases memory.userUnder? user.id with
  | none => rfl
  | some entry =>
      obtain ⟨id, stored⟩ := entry
      simp only [Option.map_some, Prod.map_apply, masked_byEmail, User.masked_federationKey,
        User.masked_email, User.masked_username, rename_masked]
      split
      · rfl
      · split
        · rfl
        · split <;> rfl

theorem rows_masked (memory : Memory) :
    (memory.masked mask).rows = memory.rows.map (Row.masked mask) := by
  rw [rows, masked, rows, List.map_map, List.map_map]
  rfl

end Memory

/-! ## The table -/

namespace Table

/-- The table with the passwords changed. -/
def masked (mask : Mask) (table : Table) : Table :=
  { rows := table.rows.map (Row.masked mask) }

theorem find_masked (table : Table) (access : Access) (key : CodeString) :
    (table.masked mask).find access key =
      (table.find access key).map (Option.map (User.masked mask)) := by
  have sameKey : (fun row : Row => row.federationKey == key) ∘ Row.masked mask =
      fun row => row.federationKey == key := rfl
  simp only [find, masked, List.find?_map, sameKey]
  split
  · rfl
  · cases table.rows.find? (·.federationKey == key) with
    | none => rfl
    | some row =>
        simp only [Option.map_some]
        split <;> rfl

theorem violated?_masked (table : Table) (user : User) :
    (table.masked mask).violated? (user.masked mask) = table.violated? user := by
  simp only [violated?, masked, List.any_map]
  rfl

theorem create_masked (keepsRefusals : mask.KeepsRefusals) (table : Table) (access : Access)
    (user : User) : (table.masked mask).create access (user.masked mask) =
      within (masked mask) (table.create access user) := by
  have appended (id : Nat) : (table.rows.map (Row.masked mask)) ++
      [Row.ofUser id (user.masked mask)] =
        (table.rows ++ [Row.ofUser id user]).map (Row.masked mask) := by
    rw [List.map_append]
    rfl
  rw [create_eq, create_eq, User.unencodable?_masked keepsRefusals, violated?_masked]
  simp only [masked, List.length_map, appended]
  split
  · rfl
  · split
    · rfl
    · cases table.violated? user with
      | some column => rfl
      | none =>
          simp only
          split <;> rfl

theorem changed_masked (mask : Mask) (user : User) (rows : List Row) :
    changed (user.masked mask) (rows.map (Row.masked mask)) =
      (changed user rows).map (Row.masked mask) := by
  rw [changed, changed, List.map_map, List.map_map]
  apply List.map_congr_left
  intro row _
  have same : isAbout (user.masked mask) (row.masked mask) = isAbout user row := rfl
  simp only [Function.comp_apply, same]
  split <;> rfl

theorem renamed_masked (table : Table) (user : User) :
    (table.masked mask).renamed (user.masked mask) = (table.renamed user).masked mask :=
  congrArg Table.mk (changed_masked mask user table.rows)

theorem update_masked (table : Table) (access : Access) (user : User) :
    (table.masked mask).update access (user.masked mask) =
      within (masked mask) (table.update access user) := by
  have about : (table.masked mask).rows.any (isAbout (user.masked mask)) =
      table.rows.any (isAbout user) := by
    rw [masked, List.any_map]
    rfl
  have taken : ((table.masked mask).rows.any fun row =>
      !isAbout (user.masked mask) row && row.email == (user.masked mask).email) =
        table.rows.any fun row => !isAbout user row && row.email == user.email := by
    rw [masked, List.any_map]
    rfl
  rw [update_eq, update_eq, about, taken, renamed_masked, User.masked_id, User.masked_username,
    User.masked_email, User.masked_federationKey]
  repeat' split
  all_goals rfl

end Table

/-! ## Stores -/

/-- The store with the passwords changed. -/
def masked (mask : Mask) : Store → Store
  | .memory kept => .memory (kept.masked mask)
  | .database table => .database (table.map (Table.masked mask))

theorem find_masked (store : Store) (access : Access) (key : CodeString) :
    (store.masked mask).find access key =
      (store.find access key).map (Option.map (User.masked mask)) := by
  cases store with
  | memory kept => exact kept.find_masked key
  | database table =>
      cases table with
      | none => rfl
      | some table => exact table.find_masked access key

theorem create_masked (keepsRefusals : mask.KeepsRefusals) (store : Store) (access : Access)
    (user : User) : (store.masked mask).create access (user.masked mask) =
      within (masked mask) (store.create access user) := by
  cases store with
  | memory kept =>
      rw [masked, create, create, kept.create_masked]
      cases kept.create user <;> rfl
  | database table =>
      cases table with
      | none => rfl
      | some table =>
          rw [masked, Option.map_some, create, create, table.create_masked keepsRefusals]
          cases table.create access user <;> rfl

theorem update_masked (store : Store) (access : Access) (user : User) :
    (store.masked mask).update access (user.masked mask) =
      within (masked mask) (store.update access user) := by
  cases store with
  | memory kept =>
      rw [masked, update, update, kept.update_masked]
      cases kept.update user <;> rfl
  | database table =>
      cases table with
      | none => rfl
      | some table =>
          rw [masked, Option.map_some, update, update, table.update_masked]
          cases table.update access user <;> rfl

theorem rows_masked (store : Store) :
    (store.masked mask).rows = store.rows.map (List.map (Row.masked mask)) := by
  cases store with
  | memory kept => exact congrArg some kept.rows_masked
  | database table => cases table <;> rfl

theorem masked_masked (absorbs : mask.Absorbs other) (store : Store) :
    (store.masked other).masked mask = store.masked mask := by
  cases store with
  | memory kept =>
      have users : User.masked mask ∘ User.masked other = User.masked mask :=
        funext (User.masked_masked absorbs)
      simp only [masked, Memory.masked, List.map_map, Prod.map_comp_map, Function.comp_id, users]
  | database table =>
      cases table with
      | none => rfl
      | some table =>
          have rows : Row.masked mask ∘ Row.masked other = Row.masked mask :=
            funext (Row.masked_masked absorbs)
          simp only [masked, Option.map_some, Table.masked, List.map_map, rows]

theorem size_masked (mask : Mask) (store : Store) : (store.masked mask).size = store.size := by
  cases store with
  | memory kept => exact List.length_map _
  | database table =>
      cases table with
      | none => rfl
      | some table => exact List.length_map _

theorem createSchema_masked (store : Store) :
    (store.masked mask).createSchema = store.createSchema.masked mask := by
  cases store with
  | memory kept => rfl
  | database table => cases table <;> rfl

end Store

/-! ## Backends -/

/-- A backend with the passwords changed and without its randomness. -/
def Backend.masked (mask : Mask) (backend : Backend) : Backend :=
  { backend with store := backend.store.masked mask, random := .arithmetic 0 }

/-- An outcome with the passwords of its backend changed, and its result along with them. -/
def Outcome.masked {α : Type} (mask : Mask) (change : α → α) (outcome : Outcome α) : Outcome α :=
  ⟨outcome.result.map change, outcome.events, outcome.backend.masked mask⟩

namespace Backend

theorem masked_masked (absorbs : mask.Absorbs other) (backend : Backend) :
    (backend.masked other).masked mask = backend.masked mask := by
  simp only [masked, Store.masked_masked absorbs]

theorem find_masked (backend : Backend) (key : CodeString) :
    (backend.masked mask).find key =
      (backend.find key).masked mask (Option.map (User.masked mask)) := by
  simp only [find, masked, Store.find_masked]
  split <;> rfl

theorem create_masked (keepsRefusals : mask.KeepsRefusals) (backend : Backend) (user : User) :
    (backend.masked mask).create (user.masked mask) = (backend.create user).masked mask id := by
  simp only [create, masked, Store.create_masked keepsRefusals]
  split
  · rfl
  · cases backend.store.create backend.access user <;> rfl

theorem update_masked (backend : Backend) (user : User) :
    (backend.masked mask).update (user.masked mask) = (backend.update user).masked mask id := by
  simp only [update, masked, Store.update_masked]
  split
  · rfl
  · cases backend.store.update backend.access user <;> rfl

theorem createSchema_masked (backend : Backend) :
    ({ backend with store := backend.store.createSchema } : Backend).masked mask =
      { backend.masked mask with store := (backend.masked mask).store.createSchema } := by
  simp only [masked, Store.createSchema_masked]

theorem ambush_masked (backend : Backend) (operation : Operation) (ambush : Ambush) :
    (backend.ambush operation ambush).masked mask =
      (backend.masked mask).ambush operation ambush := by
  cases operation <;> rfl

end Backend

end FederatedLogin

import FederatedLogin.Proofs.Store.Backend

/-!
# Twin backends

One backend works on the store in memory, the other on a database; both keep the same rows, draw
from the same randomness, and nothing lies in wait for either.  Then their operations on texts that
can be encoded come to the same, except for two refusals: a new user of whom the federation key and
the e-mail are both taken is refused for one of them here and for the other there, and a change of a
user whose identifier stands under another federation key is refused in different words.
-/

namespace FederatedLogin

open FederatedLogin.Store FederatedLogin.Text

/-- A user that can be handed over to a database in a change. -/
structure User.IsChangeable (user : User) : Prop where
  id : Table.fitsColumn user.id
  federationKey : user.federationKey.isEncodable
  username : user.username.isEncodable
  email : user.email.isEncodable

theorem User.IsChangeable.of_texts {user : User} (id : Table.fitsColumn user.id)
    (encodable : ∀ text ∈ [user.federationKey, user.username, user.email], text.isEncodable) :
    user.IsChangeable := by
  simp only [List.forall_mem_cons] at encodable
  exact ⟨id, encodable.1, encodable.2.1, encodable.2.2.1⟩

theorem User.IsChangeable.texts {user : User} (changeable : user.IsChangeable) :
    ∀ text ∈ [user.username, user.email], text.isEncodable := by
  simp [changeable.username, changeable.email]

namespace Store

/-- A new user of whom the federation key and the e-mail are both taken. -/
def DoublyTaken (rows : List Row) (user : User) : Prop :=
  KeyTaken rows user.federationKey ∧ EmailTaken rows user.email

/-- A user whose identifier stands under another federation key. -/
def Misplaced (rows : List Row) (user : User) : Prop :=
  ∃ row ∈ rows, user.id = some (row.id : Int) ∧ row.federationKey ≠ user.federationKey

/-- No row is that of a user whose identifier stands under another federation key. -/
theorem Misplaced.not_known {rows : List Row} {user : User} (misplaced : Misplaced rows user)
    (orderly : Orderly rows) : ¬ Known rows user := by
  obtain ⟨row, rowMem, sameId, differ⟩ := misplaced
  rintro ⟨other, otherMem, isAbout⟩
  obtain ⟨otherId, otherKey⟩ := Table.isAbout_iff.mp isAbout
  rw [sameId, Option.some.injEq] at otherId
  rw [orderly.eq_of_id rowMem otherMem (Int.ofNat.inj otherId)] at differ
  exact differ otherKey

namespace Keeps

variable {store : Store} {rows : List Row} {user : User}

/-- The store in memory looks at the federation key first. -/
theorem create_of_keyTaken_of_memory (keeps : store.Keeps rows) (kind : store.kind = .memory)
    (taken : KeyTaken rows user.federationKey) :
    store.create {} user = .error (.duplicateKey "federation_key" user.federationKey) store := by
  cases keeps with
  | memory consistent rows_eq =>
      subst rows_eq
      simp only [create, consistent.create_of_keyTaken taken, within]
  | database _ _ => cases kind

/-- A database looks at the e-mail first. -/
theorem create_of_emailTaken_of_database (keeps : store.Keeps rows)
    (kind : store.kind = .database) (textsTaken : store.kind.refused? user.texts = none)
    (taken : EmailTaken rows user.email) :
    store.create {} user = .error (.duplicateKey "email" user.email) store := by
  cases keeps with
  | memory consistent rows_eq => cases kind
  | database _ _ =>
      simp only [create, Table.create_of_emailTaken ⟨rows⟩ textsTaken taken, within, ofTable]

/-- A federation key that is taken is reported as such where the e-mail is free. -/
theorem create_of_keyTaken_of_emailFree (keeps : store.Keeps rows)
    (textsTaken : store.kind.refused? user.texts = none)
    (taken : KeyTaken rows user.federationKey) (emailFree : ¬ EmailTaken rows user.email) :
    store.create {} user = .error (.duplicateKey "federation_key" user.federationKey) store := by
  rcases keeps.create_of_keyTaken textsTaken taken with refused | ⟨emailTaken, _⟩
  · exact refused
  · exact absurd emailTaken emailFree

/-- The store in memory looks the identifier up first. -/
theorem update_of_misplaced_of_memory (keeps : store.Keeps rows) (kind : store.kind = .memory)
    (misplaced : Misplaced rows user) :
    store.update {} user = .error (.storage .keyImmutable) store := by
  obtain ⟨row, rowMem, sameId, differ⟩ := misplaced
  cases keeps with
  | memory consistent rows_eq =>
      subst rows_eq
      simp only [update, consistent.update_of_otherKey rowMem sameId differ, within]
  | database _ _ => cases kind

/-- A database looks for the identifier and the federation key together. -/
theorem update_of_unknown_of_database (keeps : store.Keeps rows) (kind : store.kind = .database)
    (changeable : user.IsChangeable) (unknown : ¬ Known rows user) :
    store.update {} user = .error (.storage (.noSuchUser user.id)) store := by
  cases keeps with
  | memory consistent rows_eq => cases kind
  | database _ _ =>
      have textsTaken := CodeString.unencodable?_eq_none_iff.mpr changeable.texts
      simp only [update, Table.update_of_unknown ⟨rows⟩ textsTaken unknown, Table.unknownFailure,
        changeable.id, changeable.federationKey, Bool.not_true, Bool.false_eq_true, if_false,
        within, ofTable]

/-- An identifier that nobody has is refused in the same words everywhere. -/
theorem update_of_unknown_of_placed (keeps : store.Keeps rows) (changeable : user.IsChangeable)
    (unknown : ¬ Known rows user) (placed : ¬ Misplaced rows user) :
    store.update {} user = .error (.storage (.noSuchUser user.id)) store := by
  have differ : ∀ row ∈ rows, user.id ≠ some (row.id : Int) := by
    intro row rowMem sameId
    by_cases sameKey : row.federationKey = user.federationKey
    · exact unknown ⟨row, rowMem, Table.isAbout_iff.mpr ⟨sameId, sameKey⟩⟩
    · exact placed ⟨row, rowMem, sameId, sameKey⟩
  cases keeps with
  | memory consistent rows_eq =>
      subst rows_eq
      simp only [update, consistent.update_of_otherIds differ, within]
  | database orderly encodable =>
      exact (Keeps.database orderly encodable).update_of_unknown_of_database rfl changeable unknown

end Keeps

end Store

/-! ## One of the two -/

/-- A backend on a store of a kind, in order with some rows and with nothing in wait. -/
structure Backend.Serves (backend : Backend) (kind : Kind) (rows : List Row) : Prop where
  inOrder : backend.InOrder rows
  clear : backend.Clear
  kind_eq : backend.store.kind = kind

namespace Backend.Serves

variable {backend : Backend} {kind : Kind} {rows : List Row} {user : User}

theorem drawn (serves : backend.Serves kind rows) (random : RandomSource) :
    { backend with random }.Serves kind rows :=
  ⟨⟨serves.inOrder.keeps, serves.inOrder.access⟩,
    ⟨serves.clear.onFind, serves.clear.onCreate, serves.clear.onUpdate⟩, serves.kind_eq⟩

theorem create_refused (serves : backend.Serves kind rows) {failure : Failure}
    (refused : backend.store.create {} user = .error failure backend.store) :
    backend.create user = ⟨.error failure, [], backend⟩ :=
  serves.inOrder.create_refused serves.clear refused

theorem update_refused (serves : backend.Serves kind rows) {failure : Failure}
    (refused : backend.store.update {} user = .error failure backend.store) :
    backend.update user = ⟨.error failure, [], backend⟩ :=
  serves.inOrder.update_refused serves.clear refused

theorem create_stored (serves : backend.Serves kind rows) (encodable : user.isEncodable)
    (keyFree : ¬ KeyTaken rows user.federationKey) (emailFree : ¬ EmailTaken rows user.email) :
    ∃ after, backend.create user =
        ⟨.ok (rows.length + 1), [.userStored (rows.length + 1 : Nat)], after⟩ ∧
      after.random = backend.random ∧
      after.Serves kind (rows ++ [Row.ofUser (rows.length + 1) user]) := by
  obtain ⟨store, created, inOrder, sameKind⟩ := serves.inOrder.create_of_free serves.clear
    (Kind.refused?_texts _ encodable) keyFree emailFree
  exact ⟨{ backend with store }, created, rfl, inOrder, serves.clear.stored store,
    sameKind.trans serves.kind_eq⟩

theorem update_stored (serves : backend.Serves kind rows)
    (encodable : ∀ text ∈ [user.username, user.email], text.isEncodable)
    (known : Known rows user) (free : ¬ EmailOfAnother rows user) :
    ∃ after, backend.update user = ⟨.ok (), [.userUpdated user.id], after⟩ ∧
      after.random = backend.random ∧ after.Serves kind (changed user rows) := by
  obtain ⟨store, updated, inOrder, sameKind⟩ := serves.inOrder.update_of_free serves.clear
    (Kind.refused?_of_isEncodable _ encodable) known free
  exact ⟨{ backend with store }, updated, rfl, inOrder, serves.clear.stored store,
    sameKind.trans serves.kind_eq⟩

end Backend.Serves

/-! ## Twins -/

/-- A backend on the store in memory and one on a database that nothing else tells apart. -/
structure Backend.Twins (memory database : Backend) (rows : List Row) : Prop where
  onMemory : memory.Serves .memory rows
  onDatabase : database.Serves .database rows
  random_eq : memory.random = database.random

/-- Outcomes that differ in nothing but the kind of the store. -/
structure Outcome.Twins {α : Type} (outcome other : Outcome α) : Prop where
  result : outcome.result = other.result
  events : outcome.events = other.events
  backends : ∃ rows, outcome.backend.Twins other.backend rows

namespace Backend.Twins

variable {memory database : Backend} {rows : List Row} {user : User}

theorem drawn (twins : memory.Twins database rows) (random : RandomSource) :
    Backend.Twins { memory with random } { database with random } rows :=
  ⟨twins.onMemory.drawn random, twins.onDatabase.drawn random, rfl⟩

/-- What leaves twins alone has twin outcomes. -/
theorem outcomes {α : Type} (twins : memory.Twins database rows) (result : Except Failure α)
    (events : List Event) :
    (⟨result, events, memory⟩ : Outcome α).Twins ⟨result, events, database⟩ :=
  ⟨rfl, rfl, rows, twins⟩

theorem find (twins : memory.Twins database rows) {key : CodeString} (encodable : key.isEncodable) :
    (memory.find key).Twins (database.find key) := by
  have taken (kind : Kind) : kind.refused? [key] = none :=
    kind.refused?_of_isEncodable (by simp [encodable])
  rw [twins.onMemory.inOrder.find_of_idle twins.onMemory.clear.onFind (taken _),
    twins.onDatabase.inOrder.find_of_idle twins.onDatabase.clear.onFind (taken _)]
  exact twins.outcomes _ _

/-- A new user that is not doubly taken is stored or refused by both alike. -/
theorem create (twins : memory.Twins database rows) (encodable : user.isEncodable)
    (single : ¬ DoublyTaken rows user) :
    (memory.create user).Twins (database.create user) := by
  have textsTaken (kind : Kind) := kind.refused?_texts encodable
  by_cases keyTaken : KeyTaken rows user.federationKey
  · have emailFree : ¬ EmailTaken rows user.email := fun taken => single ⟨keyTaken, taken⟩
    rw [twins.onMemory.create_refused
        (twins.onMemory.inOrder.keeps.create_of_keyTaken_of_emailFree (textsTaken _)
          keyTaken emailFree),
      twins.onDatabase.create_refused
        (twins.onDatabase.inOrder.keeps.create_of_keyTaken_of_emailFree (textsTaken _)
          keyTaken emailFree)]
    exact twins.outcomes _ _
  · by_cases emailTaken : EmailTaken rows user.email
    · rw [twins.onMemory.create_refused
          (twins.onMemory.inOrder.keeps.create_of_emailTaken (textsTaken _) keyTaken emailTaken),
        twins.onDatabase.create_refused
          (twins.onDatabase.inOrder.keeps.create_of_emailTaken (textsTaken _) keyTaken emailTaken)]
      exact twins.outcomes _ _
    · obtain ⟨memoryAfter, memoryStored, memoryRandom, onMemory⟩ :=
        twins.onMemory.create_stored encodable keyTaken emailTaken
      obtain ⟨databaseAfter, databaseStored, databaseRandom, onDatabase⟩ :=
        twins.onDatabase.create_stored encodable keyTaken emailTaken
      rw [memoryStored, databaseStored]
      exact ⟨rfl, rfl, _, onMemory, onDatabase,
        memoryRandom.trans (twins.random_eq.trans databaseRandom.symm)⟩

/-- A change of a known user is made or refused by both alike. -/
theorem update_of_known (twins : memory.Twins database rows)
    (encodable : ∀ text ∈ [user.username, user.email], text.isEncodable)
    (known : Known rows user) : (memory.update user).Twins (database.update user) := by
  have taken (kind : Kind) := kind.refused?_of_isEncodable encodable
  by_cases emailTaken : EmailOfAnother rows user
  · rw [twins.onMemory.update_refused
        (twins.onMemory.inOrder.keeps.update_of_emailTaken (taken _) known emailTaken),
      twins.onDatabase.update_refused
        (twins.onDatabase.inOrder.keeps.update_of_emailTaken (taken _) known emailTaken)]
    exact twins.outcomes _ _
  · obtain ⟨memoryAfter, memoryStored, memoryRandom, onMemory⟩ :=
      twins.onMemory.update_stored encodable known emailTaken
    obtain ⟨databaseAfter, databaseStored, databaseRandom, onDatabase⟩ :=
      twins.onDatabase.update_stored encodable known emailTaken
    rw [memoryStored, databaseStored]
    exact ⟨rfl, rfl, _, onMemory, onDatabase,
      memoryRandom.trans (twins.random_eq.trans databaseRandom.symm)⟩

/-- A change under an identifier that nobody has is refused by both alike. -/
theorem update_of_unknown (twins : memory.Twins database rows) (changeable : user.IsChangeable)
    (unknown : ¬ Known rows user) (placed : ¬ Misplaced rows user) :
    (memory.update user).Twins (database.update user) := by
  rw [twins.onMemory.update_refused
      (twins.onMemory.inOrder.keeps.update_of_unknown_of_placed changeable unknown placed),
    twins.onDatabase.update_refused
      (twins.onDatabase.inOrder.keeps.update_of_unknown_of_placed changeable unknown placed)]
  exact twins.outcomes _ _

/-- A doubly taken user is refused for the federation key in memory and for the e-mail in the
database. -/
theorem create_of_doublyTaken (twins : memory.Twins database rows) (encodable : user.isEncodable)
    (taken : DoublyTaken rows user) :
    memory.create user =
        ⟨.error (.duplicateKey "federation_key" user.federationKey), [], memory⟩ ∧
      database.create user = ⟨.error (.duplicateKey "email" user.email), [], database⟩ := by
  constructor
  · exact twins.onMemory.create_refused
      (twins.onMemory.inOrder.keeps.create_of_keyTaken_of_memory twins.onMemory.kind_eq taken.1)
  · exact twins.onDatabase.create_refused
      (twins.onDatabase.inOrder.keeps.create_of_emailTaken_of_database twins.onDatabase.kind_eq
        (Kind.refused?_texts _ encodable) taken.2)

/-- A misplaced user is refused for its federation key in memory and as unknown in the database. -/
theorem update_of_misplaced (twins : memory.Twins database rows) (changeable : user.IsChangeable)
    (misplaced : Misplaced rows user) :
    memory.update user = ⟨.error (.storage .keyImmutable), [], memory⟩ ∧
      database.update user = ⟨.error (.storage (.noSuchUser user.id)), [], database⟩ := by
  have unknown := misplaced.not_known twins.onDatabase.inOrder.keeps.orderly
  constructor
  · exact twins.onMemory.update_refused
      (twins.onMemory.inOrder.keeps.update_of_misplaced_of_memory twins.onMemory.kind_eq misplaced)
  · exact twins.onDatabase.update_refused
      (twins.onDatabase.inOrder.keeps.update_of_unknown_of_database twins.onDatabase.kind_eq
        changeable unknown)

end Backend.Twins

end FederatedLogin

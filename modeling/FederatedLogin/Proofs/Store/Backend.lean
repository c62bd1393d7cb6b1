import FederatedLogin.Proofs.Store.Keeps
import FederatedLogin.Store.Backend

/-!
# Backends in working order

A backend is in order with some rows when its store keeps them and can be used in full.  Whatever
lies in wait for its operations, an operation either fails and leaves the rows as they were, or does
what the store does.  A backend is clear when nothing lies in wait; then every operation is that of
the store.
-/

namespace FederatedLogin

open FederatedLogin.Store FederatedLogin.Text

/-- A backend whose store keeps these rows and can be used in full. -/
structure Backend.InOrder (backend : Backend) (rows : List Row) : Prop where
  keeps : backend.store.Keeps rows
  access : backend.access = {}

/-- A backend whose operations nothing lies in wait for. -/
structure Backend.Clear (backend : Backend) : Prop where
  onFind : backend.onFind.times = 0
  onCreate : backend.onCreate.times = 0
  onUpdate : backend.onUpdate.times = 0

namespace Ambush

variable {ambush : Ambush}

theorem strike?_eq_none (idle : ambush.times = 0) : ambush.strike? = none := by
  rw [strike?, if_pos idle]

/-- What does not lie in wait does not fail. -/
theorem reached_of_idle (idle : ambush.times = 0) (failure : Failure) :
    ambush.strike? ≠ some (.failing failure) := by
  rw [strike?_eq_none idle]
  exact nofun

theorem spent_eq_self (idle : ambush.times = 0) : ambush.spent = ambush := by
  obtain ⟨fault, times⟩ := ambush
  subst idle
  rfl

end Ambush

namespace Backend

variable {backend : Backend} {rows : List Row}

/-! ## Operations that reach the store -/

theorem store_find (backend : Backend) (key : CodeString) :
    (backend.find key).backend.store = backend.store := by
  rw [find]
  split <;> rfl

/-- A user that is found is found in the store. -/
theorem of_find {user : User} {key : CodeString}
    (found : (backend.find key).result = .ok (some user)) :
    backend.store.find backend.access key = .ok (some user) := by
  rw [find] at found
  cases struck : backend.onFind.strike? with
  | none =>
      simp only [struck] at found
      exact found
  | some fault => cases fault <;> simp [struck] at found

/-- A user that is made is made in the store. -/
theorem of_create {user : User} {id : Nat} (created : (backend.create user).result = .ok id) :
    ∃ changed, backend.store.create backend.access user = .ok id changed := by
  rw [create] at created
  split at created
  · cases created
  · cases made : backend.store.create backend.access user with
    | error failure left => simp [made] at created
    | ok made changed =>
        simp only [made] at created
        cases created
        exact ⟨changed, rfl⟩

theorem find_of_reached (access : backend.access = {}) (reached : backend.onFind.strike? = none)
    (key : CodeString) : backend.find key =
      ⟨backend.store.find {} key, [], { backend with onFind := backend.onFind.spent }⟩ := by
  simp only [find, reached, access]

/-- Only a failure in wait keeps a new user from the store. -/
theorem create_of_reached (access : backend.access = {})
    (reached : ∀ failure, backend.onCreate.strike? ≠ some (.failing failure)) (user : User) :
    backend.create user =
      match backend.store.create {} user with
      | .ok id store =>
          ⟨.ok id, [.userStored id], { backend with store, onCreate := backend.onCreate.spent }⟩
      | .error failure store =>
          ⟨.error failure, [], { backend with store, onCreate := backend.onCreate.spent }⟩ := by
  -- An ambush that finds nothing lies in wait for look-ups only, so it lets a new user pass.
  cases struck : backend.onCreate.strike? with
  | none =>
      cases created : backend.store.create {} user <;> simp only [create, struck, access, created]
  | some fault =>
      cases fault with
      | absent =>
          cases created : backend.store.create {} user <;>
            simp only [create, struck, access, created]
      | failing failure => exact absurd struck (reached failure)

theorem create_of_ok (access : backend.access = {})
    (reached : ∀ failure, backend.onCreate.strike? ≠ some (.failing failure)) {user : User}
    {id : Nat} {store : Store} (created : backend.store.create {} user = .ok id store) :
    backend.create user =
      ⟨.ok id, [.userStored id], { backend with store, onCreate := backend.onCreate.spent }⟩ := by
  rw [create_of_reached access reached, created]

theorem create_of_error (access : backend.access = {})
    (reached : ∀ failure, backend.onCreate.strike? ≠ some (.failing failure)) {user : User}
    {failure : Failure} (refused : backend.store.create {} user = .error failure backend.store) :
    backend.create user =
      ⟨.error failure, [], { backend with onCreate := backend.onCreate.spent }⟩ := by
  rw [create_of_reached access reached, refused]

/-- Only a failure in wait keeps a change from the store. -/
theorem update_of_reached (access : backend.access = {})
    (reached : ∀ failure, backend.onUpdate.strike? ≠ some (.failing failure)) (user : User) :
    backend.update user =
      match backend.store.update {} user with
      | .ok () store =>
          ⟨.ok (), [.userUpdated user.id],
            { backend with store, onUpdate := backend.onUpdate.spent }⟩
      | .error failure store =>
          ⟨.error failure, [], { backend with store, onUpdate := backend.onUpdate.spent }⟩ := by
  cases struck : backend.onUpdate.strike? with
  | none =>
      cases updated : backend.store.update {} user <;> simp only [update, struck, access, updated]
  | some fault =>
      cases fault with
      | absent =>
          cases updated : backend.store.update {} user <;>
            simp only [update, struck, access, updated]
      | failing failure => exact absurd struck (reached failure)

theorem update_of_ok (access : backend.access = {})
    (reached : ∀ failure, backend.onUpdate.strike? ≠ some (.failing failure)) {user : User}
    {store : Store} (updated : backend.store.update {} user = .ok () store) :
    backend.update user =
      ⟨.ok (), [.userUpdated user.id],
        { backend with store, onUpdate := backend.onUpdate.spent }⟩ := by
  rw [update_of_reached access reached, updated]

theorem update_of_error (access : backend.access = {})
    (reached : ∀ failure, backend.onUpdate.strike? ≠ some (.failing failure)) {user : User}
    {failure : Failure} (refused : backend.store.update {} user = .error failure backend.store) :
    backend.update user =
      ⟨.error failure, [], { backend with onUpdate := backend.onUpdate.spent }⟩ := by
  rw [update_of_reached access reached, refused]

/-! ## Whatever lies in wait -/

/-- A look-up finds the user that is there, or nothing, or fails. -/
theorem InOrder.find_cases (inOrder : backend.InOrder rows) (key : CodeString) :
    ∃ result, backend.find key =
        ⟨result, [], { backend with onFind := backend.onFind.spent }⟩ ∧
      (result = .ok none ∨ (∃ failure, result = .error failure) ∨
        result = .ok ((rows.find? (·.federationKey == key)).map Row.toUser)) := by
  cases struck : backend.onFind.strike? with
  | none =>
      refine ⟨_, find_of_reached inOrder.access struck key, ?_⟩
      cases taken : backend.store.kind.refused? [key] with
      | none => exact .inr (.inr (inOrder.keeps.find_eq taken))
      | some text => exact .inr (.inl ⟨_, inOrder.keeps.find_of_refused taken⟩)
  | some fault =>
      cases fault with
      | absent => exact ⟨.ok none, by simp only [find, struck], .inl rfl⟩
      | failing failure =>
          exact ⟨.error failure, by simp only [find, struck], .inr (.inl ⟨failure, rfl⟩)⟩

/-- A new user is stored under a free federation key and a free e-mail, or the rows stay as they
were. -/
theorem InOrder.create_cases (inOrder : backend.InOrder rows) (user : User) :
    (∃ failure after, backend.create user = ⟨.error failure, [], after⟩ ∧ after.InOrder rows) ∨
    ∃ after, backend.create user =
        ⟨.ok (rows.length + 1), [.userStored (rows.length + 1 : Nat)], after⟩ ∧
      ¬ KeyTaken rows user.federationKey ∧ ¬ EmailTaken rows user.email ∧
      after.InOrder (rows ++ [Row.ofUser (rows.length + 1) user]) := by
  by_cases failing : ∃ failure, backend.onCreate.strike? = some (.failing failure)
  · obtain ⟨failure, struck⟩ := failing
    refine .inl ⟨failure, { backend with onCreate := backend.onCreate.spent }, ?_,
      inOrder.keeps, inOrder.access⟩
    simp only [create, struck]
  · have reached := not_exists.mp failing
    have stays {failure : Failure}
        (refused : backend.store.create {} user = .error failure backend.store) :
        ∃ failure after, backend.create user = ⟨.error failure, [], after⟩ ∧ after.InOrder rows :=
      ⟨_, _, create_of_error inOrder.access reached refused, inOrder.keeps, inOrder.access⟩
    cases refused : backend.store.kind.refused? user.texts with
    | some text => exact .inl (stays (inOrder.keeps.create_of_refused refused))
    | none =>
        by_cases keyTaken : KeyTaken rows user.federationKey
        · have keyRefused := inOrder.keeps.create_of_keyTaken refused keyTaken
          rcases keyRefused with keyReported | ⟨_, emailReported⟩
          · exact .inl (stays keyReported)
          · exact .inl (stays emailReported)
        · by_cases emailTaken : EmailTaken rows user.email
          · exact .inl (stays (inOrder.keeps.create_of_emailTaken refused keyTaken emailTaken))
          · obtain ⟨after, created, keeps⟩ :=
              inOrder.keeps.create_of_free refused keyTaken emailTaken
            exact .inr ⟨_, create_of_ok inOrder.access reached created, keyTaken, emailTaken,
              keeps, inOrder.access⟩

/-- A known user is changed to a free e-mail, or the rows stay as they were. -/
theorem InOrder.update_cases (inOrder : backend.InOrder rows) (user : User) :
    (∃ failure after, backend.update user = ⟨.error failure, [], after⟩ ∧ after.InOrder rows) ∨
    ∃ after, backend.update user = ⟨.ok (), [.userUpdated user.id], after⟩ ∧
      Known rows user ∧ ¬ EmailOfAnother rows user ∧ after.InOrder (changed user rows) := by
  by_cases failing : ∃ failure, backend.onUpdate.strike? = some (.failing failure)
  · obtain ⟨failure, struck⟩ := failing
    refine .inl ⟨failure, { backend with onUpdate := backend.onUpdate.spent }, ?_,
      inOrder.keeps, inOrder.access⟩
    simp only [update, struck]
  · have reached := not_exists.mp failing
    have stays {failure : Failure}
        (refused : backend.store.update {} user = .error failure backend.store) :
        ∃ failure after, backend.update user = ⟨.error failure, [], after⟩ ∧ after.InOrder rows :=
      ⟨_, _, update_of_error inOrder.access reached refused, inOrder.keeps, inOrder.access⟩
    cases refused : backend.store.kind.refused? [user.username, user.email] with
    | some text => exact .inl (stays (inOrder.keeps.update_of_refused refused))
    | none =>
        by_cases known : Known rows user
        · by_cases emailTaken : EmailOfAnother rows user
          · exact .inl (stays (inOrder.keeps.update_of_emailTaken refused known emailTaken))
          · obtain ⟨after, updated, keeps⟩ := inOrder.keeps.update_of_free refused known emailTaken
            exact .inr ⟨_, update_of_ok inOrder.access reached updated, known, emailTaken,
              keeps, inOrder.access⟩
        · obtain ⟨failure, unknownRefused⟩ := inOrder.keeps.update_of_unknown known
          exact .inl (stays unknownRefused)

/-! ## Nothing in wait -/

/-- A look-up that nothing lies in wait for finds what there is, and costs nothing. -/
theorem InOrder.find_of_idle (inOrder : backend.InOrder rows) (idle : backend.onFind.times = 0)
    {key : CodeString} (taken : backend.store.kind.refused? [key] = none) :
    backend.find key =
      ⟨.ok ((rows.find? (·.federationKey == key)).map Row.toUser), [], backend⟩ := by
  rw [find_of_reached inOrder.access (Ambush.strike?_eq_none idle), Ambush.spent_eq_self idle,
    inOrder.keeps.find_eq taken]

/-- Such a look-up finds the user of a row under the federation key of the row. -/
theorem InOrder.find_of_mem (inOrder : backend.InOrder rows) (idle : backend.onFind.times = 0)
    {row : Row} (rowMem : row ∈ rows) :
    backend.find row.federationKey = ⟨.ok (some row.toUser), [], backend⟩ := by
  have taken : backend.store.kind.refused? [row.federationKey] = none :=
    Kind.takes_iff.mp (inOrder.keeps.takes_key ⟨row, rowMem, rfl⟩)
  rw [inOrder.find_of_idle idle taken, inOrder.keeps.orderly.find?_eq_some rowMem]
  rfl

/-- A look-up for a text that is not taken fails. -/
theorem InOrder.find_of_refused (inOrder : backend.InOrder rows) (idle : backend.onFind.times = 0)
    {key text : CodeString} (refused : backend.store.kind.refused? [key] = some text) :
    backend.find key = ⟨.error (.outside (.unencodable key)), [], backend⟩ := by
  rw [find_of_reached inOrder.access (Ambush.strike?_eq_none idle), Ambush.spent_eq_self idle,
    inOrder.keeps.find_of_refused refused]

theorem Clear.stored (clear : backend.Clear) (store : Store) : { backend with store }.Clear :=
  ⟨clear.onFind, clear.onCreate, clear.onUpdate⟩

theorem Clear.create_reached (clear : backend.Clear) (failure : Failure) :
    backend.onCreate.strike? ≠ some (.failing failure) :=
  Ambush.reached_of_idle clear.onCreate failure

theorem Clear.update_reached (clear : backend.Clear) (failure : Failure) :
    backend.onUpdate.strike? ≠ some (.failing failure) :=
  Ambush.reached_of_idle clear.onUpdate failure

section

variable {user : User} {failure : Failure}

/-- What the store refuses is refused, and costs nothing. -/
theorem InOrder.create_refused (inOrder : backend.InOrder rows) (clear : backend.Clear)
    (refused : backend.store.create {} user = .error failure backend.store) :
    backend.create user = ⟨.error failure, [], backend⟩ := by
  rw [create_of_error inOrder.access clear.create_reached refused,
    Ambush.spent_eq_self clear.onCreate]

theorem InOrder.create_of_free (inOrder : backend.InOrder rows) (clear : backend.Clear)
    (taken : backend.store.kind.refused? user.texts = none)
    (keyFree : ¬ KeyTaken rows user.federationKey) (emailFree : ¬ EmailTaken rows user.email) :
    ∃ store, backend.create user =
        ⟨.ok (rows.length + 1), [.userStored (rows.length + 1 : Nat)], { backend with store }⟩ ∧
      { backend with store }.InOrder (rows ++ [Row.ofUser (rows.length + 1) user]) ∧
      store.kind = backend.store.kind := by
  obtain ⟨store, created, keeps⟩ := inOrder.keeps.create_of_free taken keyFree emailFree
  refine ⟨store, ?_, ⟨keeps, inOrder.access⟩, kind_create created⟩
  rw [create_of_ok inOrder.access clear.create_reached created,
    Ambush.spent_eq_self clear.onCreate]

theorem InOrder.update_refused (inOrder : backend.InOrder rows) (clear : backend.Clear)
    (refused : backend.store.update {} user = .error failure backend.store) :
    backend.update user = ⟨.error failure, [], backend⟩ := by
  rw [update_of_error inOrder.access clear.update_reached refused,
    Ambush.spent_eq_self clear.onUpdate]

theorem InOrder.update_of_free (inOrder : backend.InOrder rows) (clear : backend.Clear)
    (taken : backend.store.kind.refused? [user.username, user.email] = none)
    (known : Known rows user) (free : ¬ EmailOfAnother rows user) :
    ∃ store, backend.update user = ⟨.ok (), [.userUpdated user.id], { backend with store }⟩ ∧
      { backend with store }.InOrder (changed user rows) ∧
      store.kind = backend.store.kind := by
  obtain ⟨store, updated, keeps⟩ := inOrder.keeps.update_of_free taken known free
  refine ⟨store, ?_, ⟨keeps, inOrder.access⟩, kind_update updated⟩
  rw [update_of_ok inOrder.access clear.update_reached updated,
    Ambush.spent_eq_self clear.onUpdate]

end

end Backend

end FederatedLogin

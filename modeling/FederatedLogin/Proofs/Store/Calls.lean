import FederatedLogin.Proofs.Store.Memory

/-!
# Calls of the store in memory

Whatever is asked of the store in memory, and whether it is granted or not, its three indexes stay
in step: users stand under one, two, three and so on, each under its own identifier, and the two
other indexes lead back from federation keys and e-mails and nowhere else.  So no look-up between
the indexes leads nowhere, and an e-mail that is given up can be taken by everybody.
-/

namespace FederatedLogin.Store

open FederatedLogin.Text

/-- What can be asked of a store. -/
inductive Call where
  | find (key : CodeString)
  | create (user : User)
  | update (user : User)

namespace Memory

/-- The store that a call leaves behind, whether it is granted or not. -/
def after (memory : Memory) : Call → Memory
  | .find _ => memory
  | .create user =>
      match memory.create user with
      | .ok _ left | .error _ left => left
  | .update user =>
      match memory.update user with
      | .ok _ left | .error _ left => left

/-- The store after calls. -/
def run (memory : Memory) (calls : List Call) : Memory :=
  calls.foldl after memory

/-- Whether a call stores a new user. -/
def creates (memory : Memory) : Call → Bool
  | .create user =>
      match memory.create user with
      | .ok _ _ => true
      | .error _ _ => false
  | _ => false

/-- How many of the calls store a new user. -/
def created (memory : Memory) : List Call → Nat
  | [] => 0
  | call :: rest => (if memory.creates call then 1 else 0) + (memory.after call).created rest

variable {memory changed : Memory} {user : User} {id : Nat}

/-! ## What a call does -/

theorem create_eq_ok_iff : memory.create user = .ok id changed ↔
    memory.byKey.get? user.federationKey = none ∧ memory.byEmail.get? user.email = none ∧
      id = memory.nextId ∧ changed = memory.insert user := by
  rw [create_eq]
  cases memory.byKey.get? user.federationKey with
  | some holder => simp
  | none =>
      cases memory.byEmail.get? user.email with
      | some holder => simp
      | none => simp [eq_comm]

theorem update_eq_ok_iff : memory.update user = .ok () changed ↔
    ∃ id stored, memory.userUnder? user.id = some (id, stored) ∧
      stored.federationKey = user.federationKey ∧
      (∀ owner, memory.byEmail.get? user.email = some owner → owner = id) ∧
      memory.byEmail.get? stored.email ≠ none ∧
      changed = memory.rename id stored user.username user.email := by
  rw [update_eq]
  cases under : memory.userUnder? user.id with
  | none => simp
  | some member =>
      obtain ⟨id, stored⟩ := member
      have owned_iff : (∀ owner, memory.byEmail.get? user.email = some owner → owner = id) ↔
          (memory.byEmail.get? user.email).any (· ≠ id) = false := by
        cases memory.byEmail.get? user.email <;> simp
      simp only [Option.some.injEq, Prod.mk.injEq]
      constructor
      · intro updated
        split at updated
        · cases updated
        · next sameKey =>
          split at updated
          · cases updated
          · next notHeld =>
            split at updated
            · cases updated
            · next indexed =>
              cases updated
              refine ⟨id, stored, ⟨rfl, rfl⟩, not_not.mp sameKey, ?_, by simpa using indexed, rfl⟩
              exact owned_iff.mpr (Bool.eq_false_iff.mpr notHeld)
      · rintro ⟨_, _, ⟨rfl, rfl⟩, sameKey, owned, indexed, rfl⟩
        rw [if_neg (not_not.mpr sameKey), owned_iff.mp owned, if_neg Bool.false_ne_true,
          if_neg (by simpa using indexed)]

/-! ## What calls keep -/

/-- An index that leads back from a column has as many entries as there are users. -/
theorem Inverse.length_eq {index : Index CodeString Nat} {users : Index Nat User}
    {column : User → CodeString} (inverse : Inverse index users column)
    (indexDistinct : index.Distinct) (usersDistinct : users.Distinct) :
    index.length = users.length := by
  have targetsDistinct : (index.map Prod.snd).Nodup := by
    refine List.Nodup.map_on ?_ (List.Nodup.of_map Prod.fst indexDistinct)
    rintro ⟨value, id⟩ entryMem ⟨other, _⟩ otherMem rfl
    obtain ⟨user, found, isValue⟩ :=
      inverse.get?_iff.mp (Index.get?_of_mem indexDistinct entryMem)
    obtain ⟨_, otherFound, isOther⟩ :=
      inverse.get?_iff.mp (Index.get?_of_mem indexDistinct otherMem)
    rw [found, Option.some.injEq] at otherFound
    rw [← isValue, ← isOther, otherFound]
  have sameTargets : ∀ id, id ∈ index.map Prod.snd ↔ id ∈ users.keys := by
    intro id
    constructor
    · intro targetMem
      obtain ⟨⟨value, _⟩, entryMem, rfl⟩ := List.mem_map.mp targetMem
      obtain ⟨user, found, _⟩ := inverse.get?_iff.mp (Index.get?_of_mem indexDistinct entryMem)
      exact List.mem_map.mpr ⟨_, Index.mem_of_get? found, rfl⟩
    · intro idMem
      obtain ⟨⟨_, user⟩, userMem, rfl⟩ := List.mem_map.mp idMem
      have found := Index.get?_of_mem usersDistinct userMem
      exact List.mem_map.mpr ⟨_, Index.mem_of_get? (inverse.get?_iff.mpr ⟨user, found, rfl⟩), rfl⟩
  have permuted := (List.perm_ext_iff_of_nodup targetsDistinct usersDistinct).mpr sameTargets
  have lengths := permuted.length_eq
  rwa [List.length_map, Index.keys, List.length_map] at lengths

namespace Consistent

theorem of_create (consistent : memory.Consistent) (made : memory.create user = .ok id changed) :
    changed.Consistent ∧ changed.users.length = memory.users.length + 1 := by
  obtain ⟨keyFree, emailFree, rfl, rfl⟩ := create_eq_ok_iff.mp made
  refine ⟨consistent.insert keyFree emailFree, ?_⟩
  rw [consistent.users_insert, List.length_append, List.length_singleton]

theorem of_update (consistent : memory.Consistent) (made : memory.update user = .ok () changed) :
    changed.Consistent ∧ changed.users.length = memory.users.length := by
  obtain ⟨id, stored, under, _, owned, _, rfl⟩ := update_eq_ok_iff.mp made
  obtain ⟨_, found⟩ := consistent.userUnder?_eq_some_iff.mp under
  refine ⟨consistent.rename found owned, ?_⟩
  rw [Memory.rename, Index.put_of_present _ consistent.idsDistinct found, List.length_map]

/-- A call keeps the indexes in step, and there is one user more if it stores a new one. -/
theorem after (consistent : memory.Consistent) (call : Call) :
    (memory.after call).Consistent ∧ (memory.after call).users.length =
      memory.users.length + if memory.creates call then 1 else 0 := by
  cases call with
  | find key => exact ⟨consistent, rfl⟩
  | create user =>
      cases made : memory.create user with
      | error failure left =>
          obtain rfl := create_left made
          simp only [Memory.after, creates, made]
          exact ⟨consistent, rfl⟩
      | ok id changed =>
          simp only [Memory.after, creates, made]
          exact consistent.of_create made
  | update user =>
      cases made : memory.update user with
      | error failure left =>
          obtain rfl := update_left made
          simp only [Memory.after, made]
          exact ⟨consistent, rfl⟩
      | ok answer changed =>
          simp only [Memory.after, made]
          exact consistent.of_update made

theorem run (consistent : memory.Consistent) (calls : List Call) :
    (memory.run calls).Consistent ∧
      (memory.run calls).users.length = memory.users.length + memory.created calls := by
  induction calls generalizing memory with
  | nil => exact ⟨consistent, rfl⟩
  | cons call rest ih =>
      obtain ⟨stays, counted⟩ := consistent.after call
      obtain ⟨staysOn, countedOn⟩ := ih stays
      refine ⟨staysOn, ?_⟩
      rw [counted, Nat.add_assoc] at countedOn
      exact countedOn

/-- No look-up between the indexes leads nowhere. -/
theorem find_ne_missing (consistent : memory.Consistent) (key : CodeString) :
    ∃ found, memory.find key = .ok found :=
  ⟨_, consistent.find_eq key⟩

theorem update_ne_missing (consistent : memory.Consistent) (user : User) (left : Memory) :
    memory.update user ≠ .error (.outside .entryMissing) left := by
  by_cases known : Known memory.rows user
  · by_cases taken : EmailOfAnother memory.rows user
    · rw [consistent.update_of_emailTaken known taken]
      rintro ⟨⟩
    · obtain ⟨after, updated, _⟩ := consistent.update_of_free known taken
      rw [updated]
      rintro ⟨⟩
  · rcases consistent.update_of_unknown known with unknown | otherKey
    · rw [unknown]
      rintro ⟨⟩
    · rw [otherKey]
      rintro ⟨⟩

/-- Nobody holds an e-mail that a change has given up. -/
theorem released (consistent : memory.Consistent) {stored : User}
    (found : memory.users.get? id = some stored) (isId : user.id = some (id : Int))
    (moved : user.email ≠ stored.email) (updated : memory.update user = .ok () changed) :
    changed.byEmail.get? stored.email = none := by
  obtain ⟨_, _, under, _, _, _, rfl⟩ := update_eq_ok_iff.mp updated
  rw [consistent.userUnder?_eq_some_iff.mpr ⟨isId, found⟩] at under
  cases under
  rw [Memory.rename, Index.get?_put_of_ne _ _ moved.symm,
    Index.get?_remove_self consistent.emailsDistinct]

/-- A stored user can take an e-mail that nobody holds. -/
theorem exists_update_of_free (consistent : memory.Consistent) {holder : User}
    (found : memory.users.get? id = some holder) (isId : user.id = some (id : Int))
    (sameKey : user.federationKey = holder.federationKey)
    (free : memory.byEmail.get? user.email = none) :
    ∃ after, memory.update user = .ok () after := by
  have indexed := consistent.byEmail.get?_iff.mpr ⟨holder, found, rfl⟩
  refine ⟨_, update_eq_ok_iff.mpr ⟨id, holder, consistent.userUnder?_eq_some_iff.mpr ⟨isId, found⟩,
    sameKey.symm, ?_, by simp [indexed], rfl⟩⟩
  intro owner held
  rw [free] at held
  cases held

end Consistent

/-- After any calls of the empty store, granted or not, users stand under the numbers up to that of
the calls that stored one, each under its own, and the indexes of federation keys and e-mails are
the inverses of these columns, with no key twice and as many entries as there are users.  So looking
up and changing never meet a missing entry, and the e-mail that a change gives up is free: for a new
user with a free federation key, and for every stored user. -/
theorem indexes_stay_in_step (calls : List Call) :
    let memory := empty.run calls
    let count := empty.created calls
    memory.users.keys = List.range' 1 count ∧
    (∀ id user, memory.users.get? id = some user → user.id = some (id : Int)) ∧
    (Inverse memory.byKey memory.users User.federationKey ∧ memory.byKey.Distinct ∧
      memory.byKey.length = count) ∧
    (Inverse memory.byEmail memory.users User.email ∧ memory.byEmail.Distinct ∧
      memory.byEmail.length = count) ∧
    (∀ key, ∃ found, memory.find key = .ok found) ∧
    (∀ user left, memory.update user ≠ .error (.outside .entryMissing) left) ∧
    ∀ id stored user changed, memory.users.get? id = some stored → user.id = some (id : Int) →
      user.email ≠ stored.email → memory.update user = .ok () changed →
        (∀ other, other.email = stored.email → changed.byKey.get? other.federationKey = none →
          ∃ number after, changed.create other = .ok number after) ∧
        ∀ other number holder, changed.users.get? number = some holder →
          other.id = some (number : Int) → other.federationKey = holder.federationKey →
          other.email = stored.email → ∃ after, changed.update other = .ok () after := by
  intro memory count
  obtain ⟨consistent, counted⟩ := Consistent.empty.run calls
  have users_length : memory.users.length = count := counted.trans (Nat.zero_add _)
  have byKey_length := consistent.byKey.length_eq consistent.keysDistinct consistent.idsDistinct
  have byEmail_length :=
    consistent.byEmail.length_eq consistent.emailsDistinct consistent.idsDistinct
  refine ⟨users_length ▸ consistent.ids_eq, fun id user => consistent.ownId,
    ⟨consistent.byKey, consistent.keysDistinct, byKey_length.trans users_length⟩,
    ⟨consistent.byEmail, consistent.emailsDistinct, byEmail_length.trans users_length⟩,
    consistent.find_ne_missing, consistent.update_ne_missing, ?_⟩
  intro id stored user changed found isId moved updated
  have free := consistent.released found isId moved updated
  have stays := (consistent.of_update updated).1
  constructor
  · intro other sameEmail keyFree
    exact ⟨_, _, create_eq_ok_iff.mpr ⟨keyFree, sameEmail ▸ free, rfl, rfl⟩⟩
  · intro other number holder isHolder isNumber sameKey sameEmail
    exact stays.exists_update_of_free isHolder isNumber sameKey (sameEmail ▸ free)

end Memory

end FederatedLogin.Store

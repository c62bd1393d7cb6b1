import FederatedLogin.Proofs.Store.Orderly
import FederatedLogin.Store.Memory

/-!
# The indexes of the store in memory

`Consistent` is what the three indexes of the store in memory owe each other: identifiers count up
from one, every user carries its own, and the indexes of federation keys and e-mails are exactly
the inverses of these columns.  All operations keep it, and under it they do to the rows what
operations on orderly rows do.
-/

namespace FederatedLogin.Store.Memory

open Table FederatedLogin.Text

/-- An index that leads back from a column of the users to their identifiers. -/
structure Inverse (index : Index CodeString Nat) (users : Index Nat User)
    (column : User → CodeString) : Prop where
  get?_iff : ∀ {value id}, index.get? value = some id ↔
    ∃ user, users.get? id = some user ∧ column user = value

/-- The indexes are in step with each other. -/
structure Consistent (memory : Memory) : Prop where
  nextId_eq : memory.nextId = memory.users.length + 1
  ids_eq : memory.users.keys = List.range' 1 memory.users.length
  ownId : ∀ {id user}, memory.users.get? id = some user → user.id = some (id : Int)
  byKey : Inverse memory.byKey memory.users User.federationKey
  byEmail : Inverse memory.byEmail memory.users User.email
  keysDistinct : memory.byKey.Distinct
  emailsDistinct : memory.byEmail.Distinct

/-! ## Inverse indexes -/

namespace Inverse

variable {index : Index CodeString Nat} {users : Index Nat User} {column : User → CodeString}

/-- A new user whose value is free is entered under it. -/
theorem put_new (inverse : Inverse index users column) {id : Nat} (user : User)
    (free : index.get? (column user) = none) (fresh : users.get? id = none) :
    Inverse (index.put (column user) id) (users.put id user) column := by
  refine ⟨fun {value other} => ?_⟩
  by_cases isNew : other = id
  · subst isNew
    by_cases same : value = column user
    · simp [same]
    · rw [Index.get?_put_of_ne _ _ same, Index.get?_put_self, inverse.get?_iff]
      simp [fresh, Ne.symm same]
  · rw [Index.get?_put_of_ne _ _ isNew]
    by_cases same : value = column user
    · subst same
      rw [Index.get?_put_self, ← inverse.get?_iff, free]
      simp [Ne.symm isNew]
    · rw [Index.get?_put_of_ne _ _ same]
      exact inverse.get?_iff

/-- A change that leaves the column alone leaves the index alone. -/
theorem put_kept (inverse : Inverse index users column) {id : Nat} {old user : User}
    (found : users.get? id = some old) (kept : column user = column old) :
    Inverse index (users.put id user) column := by
  refine ⟨fun {value other} => ?_⟩
  by_cases isChanged : other = id
  · subst isChanged
    rw [inverse.get?_iff, Index.get?_put_self, found]
    simp [kept]
  · rw [Index.get?_put_of_ne _ _ isChanged]
    exact inverse.get?_iff

/-- A user whose value moves is taken out under the old value and entered under the new one, which
nobody else may hold. -/
theorem put_moved (inverse : Inverse index users column) {id : Nat} {old : User} (user : User)
    (distinct : index.Distinct) (found : users.get? id = some old)
    (owned : ∀ owner, index.get? (column user) = some owner → owner = id) :
    Inverse ((index.remove (column old)).put (column user) id) (users.put id user) column := by
  refine ⟨fun {value other} => ?_⟩
  have oldIndexed : index.get? (column old) = some id := inverse.get?_iff.mpr ⟨old, found, rfl⟩
  by_cases isChanged : other = id
  · subst isChanged
    by_cases same : value = column user
    · simp [same]
    · rw [Index.get?_put_of_ne _ _ same, Index.get?_put_self]
      by_cases wasOld : value = column old
      · subst wasOld
        simp [Index.get?_remove_self distinct, Ne.symm same]
      · rw [Index.get?_remove_of_ne _ wasOld, inverse.get?_iff, found]
        simp [Ne.symm same, Ne.symm wasOld]
  · rw [Index.get?_put_of_ne _ _ isChanged]
    by_cases same : value = column user
    · subst same
      rw [Index.get?_put_self, ← inverse.get?_iff]
      constructor
      · intro changedHere
        exact absurd (Option.some.inj changedHere).symm isChanged
      · intro heldByOther
        exact absurd (owned other heldByOther) isChanged
    · rw [Index.get?_put_of_ne _ _ same]
      by_cases wasOld : value = column old
      · subst wasOld
        rw [Index.get?_remove_self distinct, ← inverse.get?_iff, oldIndexed]
        simp [Ne.symm isChanged]
      · rw [Index.get?_remove_of_ne _ wasOld]
        exact inverse.get?_iff

end Inverse

/-! ## Look-ups -/

namespace Consistent

theorem empty : Consistent Memory.empty where
  nextId_eq := rfl
  ids_eq := rfl
  ownId := by simp [Memory.empty]
  byKey := ⟨by simp [Memory.empty]⟩
  byEmail := ⟨by simp [Memory.empty]⟩
  keysDistinct := List.nodup_nil
  emailsDistinct := List.nodup_nil

variable {memory : Memory}

theorem idsDistinct (consistent : memory.Consistent) : memory.users.Distinct := by
  rw [Index.Distinct, consistent.ids_eq]
  exact List.nodup_range'

/-- A stored user is shown in full by its row. -/
theorem toUser_ofUser (consistent : memory.Consistent) {id : Nat} {user : User}
    (found : memory.users.get? id = some user) : (Row.ofUser id user).toUser = user := by
  rw [Row.toUser_ofUser, ← consistent.ownId found]

/-- The rows are the users under their identifiers. -/
theorem mem_rows_iff (consistent : memory.Consistent) {row : Row} :
    row ∈ memory.rows ↔ memory.users.get? row.id = some row.toUser := by
  constructor
  · intro rowMem
    obtain ⟨⟨id, user⟩, userMem, rfl⟩ := List.mem_map.mp rowMem
    have found := Index.get?_of_mem consistent.idsDistinct userMem
    rw [consistent.toUser_ofUser found]
    exact found
  · intro found
    exact List.mem_map.mpr ⟨(row.id, row.toUser), Index.mem_of_get? found, rfl⟩

/-- A user is found under its identifier as its row shows it. -/
theorem ofUser_mem_rows (consistent : memory.Consistent) {id : Nat} {user : User}
    (found : memory.users.get? id = some user) : Row.ofUser id user ∈ memory.rows := by
  rw [consistent.mem_rows_iff, consistent.toUser_ofUser found]
  exact found

theorem keyTaken_iff (consistent : memory.Consistent) {key : CodeString} :
    KeyTaken memory.rows key ↔ (memory.byKey.get? key).isSome := by
  rw [Option.isSome_iff_exists]
  constructor
  · rintro ⟨row, rowMem, rfl⟩
    exact ⟨row.id, consistent.byKey.get?_iff.mpr ⟨_, consistent.mem_rows_iff.mp rowMem, rfl⟩⟩
  · rintro ⟨id, indexed⟩
    obtain ⟨user, found, rfl⟩ := consistent.byKey.get?_iff.mp indexed
    exact ⟨_, consistent.ofUser_mem_rows found, rfl⟩

theorem emailTaken_iff (consistent : memory.Consistent) {email : CodeString} :
    EmailTaken memory.rows email ↔ (memory.byEmail.get? email).isSome := by
  rw [Option.isSome_iff_exists]
  constructor
  · rintro ⟨row, rowMem, rfl⟩
    exact ⟨row.id, consistent.byEmail.get?_iff.mpr ⟨_, consistent.mem_rows_iff.mp rowMem, rfl⟩⟩
  · rintro ⟨id, indexed⟩
    obtain ⟨user, found, rfl⟩ := consistent.byEmail.get?_iff.mp indexed
    exact ⟨_, consistent.ofUser_mem_rows found, rfl⟩

/-- The rows of a store whose indexes are in step are orderly. -/
theorem orderly (consistent : memory.Consistent) : Orderly memory.rows := by
  have ids : memory.rows.map Row.id = List.range' 1 memory.rows.length := by
    rw [rows, List.map_map, List.length_map, ← consistent.ids_eq]
    rfl
  have rowsDistinct : memory.rows.Nodup := by
    apply List.Nodup.of_map Row.id
    rw [ids]
    exact List.nodup_range'
  -- Two rows with one key or e-mail stand under one identifier of an index.
  have eq_of_id : ∀ row ∈ memory.rows, ∀ other ∈ memory.rows, row.id = other.id → row = other := by
    intro row rowMem other otherMem same
    have found := consistent.mem_rows_iff.mp rowMem
    rw [same, consistent.mem_rows_iff.mp otherMem, Option.some.injEq] at found
    rw [← Row.ofUser_toUser row, ← Row.ofUser_toUser other, same, found]
  refine ⟨ids, List.Nodup.map_on ?_ rowsDistinct, List.Nodup.map_on ?_ rowsDistinct⟩
  · intro row rowMem other otherMem same
    have rowIndexed := consistent.byKey.get?_iff.mpr ⟨_, consistent.mem_rows_iff.mp rowMem, rfl⟩
    have otherIndexed :=
      consistent.byKey.get?_iff.mpr ⟨_, consistent.mem_rows_iff.mp otherMem, same.symm⟩
    exact eq_of_id row rowMem other otherMem (Option.some.inj (rowIndexed.symm.trans otherIndexed))
  · intro row rowMem other otherMem same
    have rowIndexed := consistent.byEmail.get?_iff.mpr ⟨_, consistent.mem_rows_iff.mp rowMem, rfl⟩
    have otherIndexed :=
      consistent.byEmail.get?_iff.mpr ⟨_, consistent.mem_rows_iff.mp otherMem, same.symm⟩
    exact eq_of_id row rowMem other otherMem (Option.some.inj (rowIndexed.symm.trans otherIndexed))

/-- A look-up finds the user of the row with the federation key. -/
theorem find_eq (consistent : memory.Consistent) (key : CodeString) :
    memory.find key = .ok ((memory.rows.find? (·.federationKey == key)).map Row.toUser) := by
  cases indexed : memory.byKey.get? key with
  | none =>
      have absent : memory.rows.find? (·.federationKey == key) = none := by
        rw [List.find?_eq_none]
        intro row rowMem same
        have taken : KeyTaken memory.rows key := ⟨row, rowMem, by simpa using same⟩
        simp [consistent.keyTaken_iff, indexed] at taken
      simp [find, indexed, absent]
  | some id =>
      obtain ⟨user, found, rfl⟩ := consistent.byKey.get?_iff.mp indexed
      have present := consistent.orderly.find?_eq_some (consistent.ofUser_mem_rows found)
      change memory.rows.find? (·.federationKey == user.federationKey) = _ at present
      simp only [find, indexed, found, present, Option.map_some, consistent.toUser_ofUser found]

/-! ## New users -/

theorem fresh (consistent : memory.Consistent) : memory.users.get? memory.nextId = none := by
  rw [Index.get?_eq_none_iff, consistent.ids_eq, consistent.nextId_eq, List.mem_range'_1]
  omega

theorem users_insert (consistent : memory.Consistent) (user : User) :
    (memory.insert user).users =
      memory.users ++ [(memory.nextId, { user with id := some (memory.nextId : Int) })] :=
  Index.put_of_absent _ consistent.fresh

theorem insert (consistent : memory.Consistent) {user : User}
    (keyFree : memory.byKey.get? user.federationKey = none)
    (emailFree : memory.byEmail.get? user.email = none) : (memory.insert user).Consistent where
  nextId_eq := by
    rw [consistent.users_insert, List.length_append, List.length_singleton, ← consistent.nextId_eq]
    rfl
  ids_eq := by
    have ids := consistent.ids_eq
    rw [Index.keys] at ids
    rw [consistent.users_insert, Index.keys, List.map_append, ids, List.length_append,
      List.length_singleton, List.range'_concat, consistent.nextId_eq]
    simp [Nat.add_comm]
  ownId := by
    intro id stored found
    by_cases isNew : id = memory.nextId
    · subst isNew
      rw [Memory.insert, Index.get?_put_self, Option.some.injEq] at found
      rw [← found]
    · rw [Memory.insert, Index.get?_put_of_ne _ _ isNew] at found
      exact consistent.ownId found
  byKey := consistent.byKey.put_new
    { user with id := some (memory.nextId : Int) } keyFree consistent.fresh
  byEmail := consistent.byEmail.put_new
    { user with id := some (memory.nextId : Int) } emailFree consistent.fresh
  keysDistinct := Index.distinct_put consistent.keysDistinct _ _
  emailsDistinct := Index.distinct_put consistent.emailsDistinct _ _

theorem rows_insert (consistent : memory.Consistent) (user : User) :
    (memory.insert user).rows = memory.rows ++ [Row.ofUser (memory.rows.length + 1) user] := by
  rw [rows, consistent.users_insert, List.map_append, consistent.nextId_eq, rows, List.length_map]
  rfl

theorem create_of_keyTaken (consistent : memory.Consistent) {user : User}
    (taken : KeyTaken memory.rows user.federationKey) :
    memory.create user = .error (.duplicateKey "federation_key" user.federationKey) memory := by
  rw [create_eq, if_pos (consistent.keyTaken_iff.mp taken)]

theorem create_of_emailTaken (consistent : memory.Consistent) {user : User}
    (keyFree : ¬ KeyTaken memory.rows user.federationKey)
    (taken : EmailTaken memory.rows user.email) :
    memory.create user = .error (.duplicateKey "email" user.email) memory := by
  rw [create_eq, if_neg (mt consistent.keyTaken_iff.mpr keyFree),
    if_pos (consistent.emailTaken_iff.mp taken)]

theorem create_of_free (consistent : memory.Consistent) {user : User}
    (keyFree : ¬ KeyTaken memory.rows user.federationKey)
    (emailFree : ¬ EmailTaken memory.rows user.email) :
    memory.create user = .ok (memory.rows.length + 1) (memory.insert user) ∧
      (memory.insert user).Consistent := by
  have keyAbsent := mt consistent.keyTaken_iff.mpr keyFree
  have emailAbsent := mt consistent.emailTaken_iff.mpr emailFree
  constructor
  · rw [create_eq, if_neg keyAbsent, if_neg emailAbsent, consistent.nextId_eq, rows, List.length_map]
  · exact consistent.insert (by simpa using keyAbsent) (by simpa using emailAbsent)

/-! ## Changes -/

theorem userUnder?_eq_some_iff (consistent : memory.Consistent) {given : Option Int} {id : Nat}
    {stored : User} : memory.userUnder? given = some (id, stored) ↔
      given = some (id : Int) ∧ memory.users.get? id = some stored := by
  have noneUnderZero : memory.users.get? 0 = none := by
    rw [Index.get?_eq_none_iff, consistent.ids_eq, List.mem_range'_1]
    omega
  match given with
  | none => simp [userUnder?]
  | some (.ofNat 0) =>
      cases id with
      | zero => simp [userUnder?, noneUnderZero]
      | succ id => simp [userUnder?]; omega
  | some (.ofNat (number + 1)) =>
      simp only [userUnder?, Option.map_eq_some_iff, Prod.mk.injEq, Option.some.injEq]
      constructor
      · rintro ⟨_, found, rfl, rfl⟩
        exact ⟨rfl, found⟩
      · rintro ⟨sameId, found⟩
        have same : number + 1 = id := Int.ofNat.inj sameId
        exact ⟨stored, same ▸ found, same, rfl⟩
  | some (.negSucc number) => simp [userUnder?]

/-- A change can be about a user that stands under its identifier with its federation key. -/
theorem known_iff (consistent : memory.Consistent) {user : User} :
    Known memory.rows user ↔ ∃ id stored, memory.userUnder? user.id = some (id, stored) ∧
      stored.federationKey = user.federationKey := by
  constructor
  · rintro ⟨row, rowMem, about⟩
    obtain ⟨sameId, sameKey⟩ := isAbout_iff.mp about
    exact ⟨row.id, row.toUser, consistent.userUnder?_eq_some_iff.mpr
      ⟨sameId, consistent.mem_rows_iff.mp rowMem⟩, sameKey⟩
  · rintro ⟨id, stored, under, sameKey⟩
    obtain ⟨sameId, found⟩ := consistent.userUnder?_eq_some_iff.mp under
    exact ⟨_, consistent.ofUser_mem_rows found, isAbout_iff.mpr ⟨sameId, sameKey⟩⟩

theorem emailOfAnother_iff (consistent : memory.Consistent) {user stored : User} {id : Nat}
    (under : memory.userUnder? user.id = some (id, stored))
    (sameKey : stored.federationKey = user.federationKey) :
    EmailOfAnother memory.rows user ↔ (memory.byEmail.get? user.email).any (· ≠ id) := by
  obtain ⟨sameId, found⟩ := consistent.userUnder?_eq_some_iff.mp under
  simp only [Option.any_eq_true, decide_eq_true_eq]
  constructor
  · rintro ⟨row, rowMem, notAbout, sameEmail⟩
    have rowFound := consistent.mem_rows_iff.mp rowMem
    refine ⟨row.id, consistent.byEmail.get?_iff.mpr ⟨_, rowFound, sameEmail⟩, ?_⟩
    rintro rfl
    rw [found, Option.some.injEq] at rowFound
    have about : isAbout user row := isAbout_iff.mpr ⟨sameId, by rw [← sameKey, rowFound]; rfl⟩
    simp [about] at notAbout
  · rintro ⟨owner, indexed, differ⟩
    obtain ⟨other, otherFound, sameEmail⟩ := consistent.byEmail.get?_iff.mp indexed
    refine ⟨_, consistent.ofUser_mem_rows otherFound, ?_, sameEmail⟩
    rw [Bool.eq_false_iff]
    intro about
    have otherId := (isAbout_iff.mp about).1
    rw [sameId] at otherId
    exact differ (Int.ofNat.inj (Option.some.inj otherId)).symm

theorem rename (consistent : memory.Consistent) {id : Nat} {stored : User}
    {username email : CodeString}
    (found : memory.users.get? id = some stored)
    (owned : ∀ owner, memory.byEmail.get? email = some owner → owner = id) :
    (memory.rename id stored username email).Consistent where
  nextId_eq := by
    simp [Memory.rename, Index.put_of_present _ consistent.idsDistinct found, consistent.nextId_eq]
  ids_eq := by
    rw [Memory.rename, Index.keys_put_of_present _ consistent.idsDistinct found, consistent.ids_eq,
      Index.put_of_present _ consistent.idsDistinct found, List.length_map]
  ownId := by
    intro other user otherFound
    by_cases isChanged : other = id
    · subst isChanged
      rw [Memory.rename, Index.get?_put_self, Option.some.injEq] at otherFound
      have own := consistent.ownId found
      rw [← otherFound]
      exact own
    · rw [Memory.rename, Index.get?_put_of_ne _ _ isChanged] at otherFound
      exact consistent.ownId otherFound
  byKey := consistent.byKey.put_kept found rfl
  byEmail := consistent.byEmail.put_moved { stored with username, email }
    consistent.emailsDistinct found owned
  keysDistinct := consistent.keysDistinct
  emailsDistinct := Index.distinct_put (Index.distinct_remove consistent.emailsDistinct _) _ _

theorem rows_rename (consistent : memory.Consistent) {user stored : User} {id : Nat}
    (under : memory.userUnder? user.id = some (id, stored))
    (sameKey : stored.federationKey = user.federationKey) :
    (memory.rename id stored user.username user.email).rows = changed user memory.rows := by
  obtain ⟨sameId, found⟩ := consistent.userUnder?_eq_some_iff.mp under
  rw [Memory.rename, rows, Index.put_of_present _ consistent.idsDistinct found, changed, rows,
    List.map_map, List.map_map]
  apply List.map_congr_left
  rintro ⟨other, otherUser⟩ userMem
  by_cases isChanged : other = id
  · subst isChanged
    have same := Index.get?_of_mem consistent.idsDistinct userMem
    rw [found, Option.some.injEq] at same
    have about : isAbout user (Row.ofUser other otherUser) :=
      isAbout_iff.mpr ⟨sameId, by rw [← sameKey, same]; rfl⟩
    simp only [Function.comp_apply, about, if_true, same]
    rfl
  · have notAbout : isAbout user (Row.ofUser other otherUser) = false := by
      rw [Bool.eq_false_iff]
      intro about
      have otherId := (isAbout_iff.mp about).1
      rw [sameId] at otherId
      exact isChanged (Int.ofNat.inj (Option.some.inj otherId)).symm
    simp [isChanged, notAbout]

theorem update_of_unknown (consistent : memory.Consistent) {user : User}
    (unknown : ¬ Known memory.rows user) :
    memory.update user = .error (.storage (.noSuchUser user.id)) memory ∨
      memory.update user = .error (.storage .keyImmutable) memory := by
  cases under : memory.userUnder? user.id with
  | none => exact .inl (by simp [update_eq, under])
  | some member =>
      obtain ⟨id, stored⟩ := member
      have differ : stored.federationKey ≠ user.federationKey := fun sameKey =>
        unknown (consistent.known_iff.mpr ⟨id, stored, under, sameKey⟩)
      exact .inr (by simp [update_eq, under, differ])

/-- The federation key that stands under the identifier is another one. -/
theorem update_of_otherKey (consistent : memory.Consistent) {user : User} {row : Row}
    (rowMem : row ∈ memory.rows) (sameId : user.id = some (row.id : Int))
    (differ : row.federationKey ≠ user.federationKey) :
    memory.update user = .error (.storage .keyImmutable) memory := by
  have under := consistent.userUnder?_eq_some_iff.mpr ⟨sameId, consistent.mem_rows_iff.mp rowMem⟩
  have storedDiffer : row.toUser.federationKey ≠ user.federationKey := differ
  simp only [update_eq, under]
  rw [if_pos storedDiffer]

/-- Nobody stands under the identifier. -/
theorem update_of_otherIds (consistent : memory.Consistent) {user : User}
    (differ : ∀ row ∈ memory.rows, user.id ≠ some (row.id : Int)) :
    memory.update user = .error (.storage (.noSuchUser user.id)) memory := by
  cases under : memory.userUnder? user.id with
  | none => simp only [update_eq, under]
  | some member =>
      obtain ⟨sameId, found⟩ := consistent.userUnder?_eq_some_iff.mp under
      exact absurd sameId (differ _ (consistent.ofUser_mem_rows found))

theorem update_of_emailTaken (consistent : memory.Consistent) {user : User}
    (known : Known memory.rows user) (taken : EmailOfAnother memory.rows user) :
    memory.update user = .error (.duplicateKey "email" user.email) memory := by
  obtain ⟨id, stored, under, sameKey⟩ := consistent.known_iff.mp known
  have held := (consistent.emailOfAnother_iff under sameKey).mp taken
  simp only [update_eq, under]
  rw [if_neg (not_not.mpr sameKey), if_pos held]

theorem update_of_free (consistent : memory.Consistent) {user : User}
    (known : Known memory.rows user) (free : ¬ EmailOfAnother memory.rows user) :
    ∃ after, memory.update user = .ok () after ∧ after.Consistent ∧
      after.rows = changed user memory.rows := by
  obtain ⟨id, stored, under, sameKey⟩ := consistent.known_iff.mp known
  have notHeld := mt (consistent.emailOfAnother_iff under sameKey).mpr free
  obtain ⟨sameId, found⟩ := consistent.userUnder?_eq_some_iff.mp under
  have oldIndexed := consistent.byEmail.get?_iff.mpr ⟨stored, found, rfl⟩
  refine ⟨memory.rename id stored user.username user.email, ?_, ?_,
    consistent.rows_rename under sameKey⟩
  · simp only [update_eq, under]
    rw [if_neg (not_not.mpr sameKey), if_neg notHeld, oldIndexed, if_neg (by simp)]
  · apply consistent.rename found
    intro owner indexed
    by_contra differ
    exact notHeld (by simpa [indexed] using differ)

end Consistent

end FederatedLogin.Store.Memory

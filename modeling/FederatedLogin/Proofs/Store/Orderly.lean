import FederatedLogin.Store.Table
import Mathlib.Data.List.Nodup

/-!
# Orderly rows

Both kinds of store keep their rows orderly: numbered from one without a gap, and no two of them
with one federation key or one e-mail.  This module says what a new row and a change of a row do to
orderly rows, apart from how either kind of store goes about it.

What a row keeps for good is its permanent part.  Later rows continue earlier ones when no earlier
row has disappeared or lost its permanent part.
-/

namespace FederatedLogin.Store

open Table FederatedLogin.Text

/-- The part of a row that no change touches. -/
def Row.permanent (row : Row) : Nat × CodeString × CodeString × CodeString :=
  (row.id, row.federationKey, row.password, row.comment)

@[simp]
theorem Row.permanent_rename (row : Row) (username email : CodeString) :
    (row.rename username email).permanent = row.permanent :=
  rfl

/-- The user that a row holds tells the row. -/
theorem Row.toUser_inj {row other : Row} (same : row.toUser = other.toUser) : row = other := by
  cases row
  cases other
  simp only [toUser, User.mk.injEq, Option.some.injEq, Int.natCast_inj] at same
  simp only [same]

/-- Rows that are numbered from one without a gap, each with a federation key and an e-mail of its
own. -/
structure Orderly (rows : List Row) : Prop where
  ids : rows.map Row.id = List.range' 1 rows.length
  keys : (rows.map Row.federationKey).Nodup
  emails : (rows.map Row.email).Nodup

/-- Every earlier row is still in its place, with its permanent part. -/
def Continues (later earlier : List Row) : Prop :=
  earlier.map Row.permanent <+: later.map Row.permanent

/-- A federation key that some row has. -/
def KeyTaken (rows : List Row) (key : CodeString) : Prop :=
  ∃ row ∈ rows, row.federationKey = key

/-- An e-mail that some row has. -/
def EmailTaken (rows : List Row) (email : CodeString) : Prop :=
  ∃ row ∈ rows, row.email = email

/-- A user that a change can be about. -/
def Known (rows : List Row) (user : User) : Prop :=
  ∃ row ∈ rows, isAbout user row

/-- A user whose e-mail a row has that is not the row of the user. -/
def EmailOfAnother (rows : List Row) (user : User) : Prop :=
  ∃ row ∈ rows, isAbout user row = false ∧ row.email = user.email

/-- Rows after the change of a user. -/
def changed (user : User) (rows : List Row) : List Row :=
  rows.map fun row =>
    if isAbout user row then row.rename user.username user.email else row

/-- A change leaves alone what a new name and a new e-mail leave alone. -/
theorem map_changed {Part : Type} (part : Row → Part)
    (kept : ∀ row username email, part (row.rename username email) = part row)
    (user : User) (rows : List Row) : (changed user rows).map part = rows.map part := by
  rw [changed, List.map_map]
  apply List.map_congr_left
  intro row _
  by_cases about : isAbout user row <;> simp [about, kept]

@[simp]
theorem length_changed (user : User) (rows : List Row) :
    (changed user rows).length = rows.length := by
  simp [changed]

theorem Table.isAbout_iff {user : User} {row : Row} :
    isAbout user row ↔ user.id = some (row.id : Int) ∧ row.federationKey = user.federationKey := by
  simp [isAbout]

/-- The user of a row under a new name is about that row. -/
theorem Table.isAbout_rename_toUser (row : Row) (username email : CodeString) :
    isAbout (row.rename username email).toUser row :=
  isAbout_iff.mpr ⟨rfl, rfl⟩

/-- A change brings no text into the rows but the name and the e-mail of its user. -/
theorem isEncodable_of_mem_changed {rows : List Row} {user : User}
    (taken : ∀ text ∈ [user.username, user.email], text.isEncodable)
    (encodable : ∀ row ∈ rows, row.toUser.isEncodable) {row : Row}
    (rowMem : row ∈ changed user rows) : row.toUser.isEncodable := by
  obtain ⟨old, oldMem, rfl⟩ := List.mem_map.mp rowMem
  have oldEncodable := encodable old oldMem
  by_cases about : isAbout user old
  · simp only [List.mem_cons, List.not_mem_nil, or_false, forall_eq_or_imp, forall_eq] at taken
    simp only [about, if_true, User.isEncodable, User.texts, Row.rename, Row.toUser,
      List.all_cons, List.all_nil, Bool.and_true, Bool.and_eq_true] at oldEncodable ⊢
    exact ⟨oldEncodable.1, taken.1, taken.2, oldEncodable.2.2.2⟩
  · rw [if_neg about]
    exact oldEncodable

/-! ## Continuation -/

namespace Continues

theorem refl (rows : List Row) : Continues rows rows :=
  List.prefix_rfl

theorem trans {first second third : List Row} (later : Continues third second)
    (earlier : Continues second first) : Continues third first :=
  List.IsPrefix.trans earlier later

theorem append (rows added : List Row) : Continues (rows ++ added) rows := by
  rw [Continues, List.map_append]
  exact List.prefix_append _ _

theorem changed (user : User) (rows : List Row) : Continues (changed user rows) rows :=
  ⟨[], by rw [List.append_nil, map_changed Row.permanent Row.permanent_rename]⟩

/-- The permanent part of an earlier row is that of a later one. -/
theorem exists_of_mem {later earlier : List Row} (continues : Continues later earlier) {row : Row}
    (rowMem : row ∈ earlier) : ∃ kept ∈ later, kept.permanent = row.permanent :=
  List.mem_map.mp (continues.subset (List.mem_map_of_mem rowMem))

end Continues

/-! ## Orderly rows -/

namespace Orderly

theorem nil : Orderly [] where
  ids := rfl
  keys := List.nodup_nil
  emails := List.nodup_nil

variable {rows : List Row} {row other : Row}

theorem eq_of_id (orderly : Orderly rows) (rowMem : row ∈ rows) (otherMem : other ∈ rows)
    (same : row.id = other.id) : row = other := by
  have idsDistinct : (rows.map Row.id).Nodup := by
    rw [orderly.ids]
    exact List.nodup_range'
  exact List.inj_on_of_nodup_map idsDistinct rowMem otherMem same

theorem eq_of_key (orderly : Orderly rows) (rowMem : row ∈ rows) (otherMem : other ∈ rows)
    (same : row.federationKey = other.federationKey) : row = other :=
  List.inj_on_of_nodup_map orderly.keys rowMem otherMem same

theorem eq_of_email (orderly : Orderly rows) (rowMem : row ∈ rows) (otherMem : other ∈ rows)
    (same : row.email = other.email) : row = other :=
  List.inj_on_of_nodup_map orderly.emails rowMem otherMem same

/-- The row with a federation key is the one that is found by it. -/
theorem find?_eq_some (orderly : Orderly rows) (rowMem : row ∈ rows) :
    rows.find? (·.federationKey == row.federationKey) = some row := by
  cases found : rows.find? (·.federationKey == row.federationKey) with
  | none =>
      have differ := List.find?_eq_none.mp found row rowMem
      simp at differ
  | some other =>
      have otherMem := List.mem_of_find?_eq_some found
      have same : other.federationKey = row.federationKey := by
        simpa using List.find?_some found
      rw [orderly.eq_of_key otherMem rowMem same]

/-- Among orderly rows, the user of a row under a new name is about the row with its federation
key. -/
theorem isAbout_rename_toUser_iff (orderly : Orderly rows) (rowMem : row ∈ rows)
    (otherMem : other ∈ rows) (username email : CodeString) :
    isAbout (row.rename username email).toUser other ↔ other.federationKey = row.federationKey := by
  rw [isAbout_iff]
  constructor
  · rintro ⟨_, sameKey⟩
    exact sameKey
  · intro sameKey
    rw [orderly.eq_of_key otherMem rowMem sameKey]
    exact ⟨rfl, rfl⟩

/-- Another row has the e-mail of a row under a new name if it stands under another federation
key. -/
theorem emailOfAnother_rename_toUser_iff (orderly : Orderly rows) (rowMem : row ∈ rows)
    (username email : CodeString) :
    EmailOfAnother rows (row.rename username email).toUser ↔
      ∃ other ∈ rows, other.federationKey ≠ row.federationKey ∧ other.email = email := by
  constructor
  · rintro ⟨other, otherMem, notAbout, sameEmail⟩
    refine ⟨other, otherMem, ?_, sameEmail⟩
    rwa [← Bool.not_eq_true, orderly.isAbout_rename_toUser_iff rowMem otherMem] at notAbout
  · rintro ⟨other, otherMem, otherKey, sameEmail⟩
    refine ⟨other, otherMem, ?_, sameEmail⟩
    rwa [← Bool.not_eq_true, orderly.isAbout_rename_toUser_iff rowMem otherMem]

/-- A row of a new user, under the next identifier, keeps rows orderly. -/
theorem append (orderly : Orderly rows) (next : row.id = rows.length + 1)
    (keyFree : ¬ KeyTaken rows row.federationKey) (emailFree : ¬ EmailTaken rows row.email) :
    Orderly (rows ++ [row]) where
  ids := by
    rw [List.map_append, orderly.ids, List.length_append, List.length_singleton,
      List.range'_concat]
    simp [next, Nat.add_comm]
  keys := by
    rw [List.map_append, List.nodup_append]
    refine ⟨orderly.keys, by simp, ?_⟩
    rintro key keyMem _ rowKey rfl
    obtain ⟨holder, holderMem, holderKey⟩ := List.mem_map.mp keyMem
    rw [List.map_singleton, List.mem_singleton] at rowKey
    exact keyFree ⟨holder, holderMem, holderKey.trans rowKey⟩
  emails := by
    rw [List.map_append, List.nodup_append]
    refine ⟨orderly.emails, by simp, ?_⟩
    rintro email emailMem _ rowEmail rfl
    obtain ⟨holder, holderMem, holderEmail⟩ := List.mem_map.mp emailMem
    rw [List.map_singleton, List.mem_singleton] at rowEmail
    exact emailFree ⟨holder, holderMem, holderEmail.trans rowEmail⟩

end Orderly

/-- A change keeps rows orderly unless it takes the e-mail of another row. -/
theorem Orderly.changed {rows : List Row} {user : User} (orderly : Orderly rows)
    (emailFree : ¬ EmailOfAnother rows user) : Orderly (changed user rows) where
  ids := by
    rw [map_changed Row.id fun _ _ _ => rfl, length_changed, orderly.ids]
  keys := by
    rw [map_changed Row.federationKey fun _ _ _ => rfl]
    exact orderly.keys
  emails := by
    rw [Store.changed, List.map_map]
    refine List.Nodup.map_on ?_ (List.Nodup.of_map Row.id ?_)
    · intro row rowMem other otherMem same
      by_cases rowAbout : isAbout user row
      · by_cases otherAbout : isAbout user other
        · apply orderly.eq_of_key rowMem otherMem
          exact (isAbout_iff.mp rowAbout).2.trans (isAbout_iff.mp otherAbout).2.symm
        · exfalso
          refine emailFree ⟨other, otherMem, by simpa using otherAbout, ?_⟩
          simpa [rowAbout, otherAbout, Row.rename] using same.symm
      · by_cases otherAbout : isAbout user other
        · exfalso
          refine emailFree ⟨row, rowMem, by simpa using rowAbout, ?_⟩
          simpa [rowAbout, otherAbout, Row.rename] using same
        · apply orderly.eq_of_email rowMem otherMem
          simpa [rowAbout, otherAbout] using same
    · rw [orderly.ids]
      exact List.nodup_range'

end FederatedLogin.Store

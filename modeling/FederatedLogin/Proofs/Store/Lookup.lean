import FederatedLogin.Proofs.Store.Orderly

/-!
# Rows by federation key

Among orderly rows there is at most one under each federation key, and the rows are known when these
are: identifiers put them in order.
-/

namespace FederatedLogin.Store

open Table FederatedLogin.Text

/-- The row under a federation key. -/
def rowUnder? (rows : List Row) (key : CodeString) : Option Row :=
  rows.find? (·.federationKey == key)

variable {rows others : List Row} {row : Row} {key : CodeString}

/-- Some row has a federation key if there is a row under it. -/
theorem keyTaken_iff : KeyTaken rows key ↔ rowUnder? rows key ≠ none := by
  simp [rowUnder?, KeyTaken]

theorem Orderly.rowUnder?_eq_some_iff (orderly : Orderly rows) :
    rowUnder? rows key = some row ↔ row ∈ rows ∧ row.federationKey = key := by
  constructor
  · intro present
    exact ⟨List.mem_of_find?_eq_some present, by simpa using List.find?_some present⟩
  · rintro ⟨rowMem, rfl⟩
    exact orderly.find?_eq_some rowMem

/-- A row at the end is met under its own federation key only. -/
theorem rowUnder?_append_of_ne (elsewhere : row.federationKey ≠ key) :
    rowUnder? (rows ++ [row]) key = rowUnder? rows key := by
  simp [rowUnder?, elsewhere]

/-- A change is met under the federation key of its user only. -/
theorem rowUnder?_changed_of_ne {user : User} (elsewhere : user.federationKey ≠ key) :
    rowUnder? (changed user rows) key = rowUnder? rows key := by
  have keyKept : ((fun row : Row => row.federationKey == key) ∘ fun row =>
      if isAbout user row then row.rename user.username user.email else row) =
        (·.federationKey == key) := by
    funext row
    by_cases about : isAbout user row <;> simp [about, Row.rename]
  rw [rowUnder?, changed, List.find?_map, keyKept, rowUnder?]
  cases found : rows.find? (·.federationKey == key) with
  | none => rfl
  | some row =>
      have rowKey : row.federationKey = key := by simpa using List.find?_some found
      have notAbout : ¬ isAbout user row := by
        intro about
        exact elsewhere ((isAbout_iff.mp about).2.symm.trans rowKey)
      rw [Option.map_some, if_neg notAbout]

/-- Orderly rows stand by rising identifiers. -/
theorem Orderly.pairwise_id (orderly : Orderly rows) :
    rows.Pairwise fun earlier later => earlier.id < later.id := by
  rw [← List.pairwise_map (f := Row.id) (R := (· < ·)), orderly.ids]
  exact List.pairwise_lt_range'

/-- Orderly rows are the same when the same rows are found in them. -/
theorem Orderly.eq_of_rowUnder? (orderly : Orderly rows) (othersOrderly : Orderly others)
    (same : ∀ key, rowUnder? rows key = rowUnder? others key) : rows = others := by
  have sameMem (row : Row) : row ∈ rows ↔ row ∈ others := by
    have inRows : rowUnder? rows row.federationKey = some row ↔ row ∈ rows ∧ _ = _ :=
      orderly.rowUnder?_eq_some_iff
    have inOthers : rowUnder? others row.federationKey = some row ↔ row ∈ others ∧ _ = _ :=
      othersOrderly.rowUnder?_eq_some_iff
    rw [and_iff_left rfl] at inRows inOthers
    rw [← inRows, ← inOthers, same]
  refine List.Perm.eq_of_pairwise ?_ orderly.pairwise_id othersOrderly.pairwise_id ?_
  · intro row other _ _ before behind
    exact absurd before (Nat.lt_asymm behind)
  · exact (List.perm_ext_iff_of_nodup (.of_map _ orderly.keys) (.of_map _ othersOrderly.keys)).mpr
      sameMem

end FederatedLogin.Store

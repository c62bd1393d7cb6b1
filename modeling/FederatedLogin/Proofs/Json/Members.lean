import FederatedLogin.Json.Value
import FederatedLogin.Store.Index
import Mathlib.Data.List.Induction

/-!
# The members that count

An object may name a member several times, and then the last of them counts.  `Holds` says so of
the document: the value stands under the name, and nothing under that name follows it.  Looking a
member up finds what the object holds, and the entries of an object are what it holds under each of
its names, once.
-/

namespace FederatedLogin.Json.Value

open FederatedLogin.Store FederatedLogin.Text

/-- What stands last among members under a name. -/
def LastUnder (name : Key) (members : List Member) (value : Value) : Prop :=
  ∃ before after, members = before ++ (name, value) :: after ∧ ∀ member ∈ after, member.1 ≠ name

/-- A value that counts under a name of an object. -/
def Holds (object : Value) (name : String) (value : Value) : Prop :=
  ∃ members, object = .object members ∧ LastUnder (CodePoint.ofText name) members value

/-- Nothing counts under a name. -/
def Lacks (object : Value) (name : String) : Prop :=
  ∀ value, ¬ object.Holds name value

variable {name : Key} {members : List Member} {value : Value}

/-! ## Looking up -/

theorem lastUnder?_eq_none_iff :
    lastUnder? name members = none ↔ ∀ member ∈ members, member.1 ≠ name := by
  induction members with
  | nil => simp
  | cons head rest ih =>
      rw [List.forall_mem_cons, ← ih]
      cases later : lastUnder? name rest with
      | none => simp [lastUnder?, later]
      | some value => simp [lastUnder?, later]

theorem lastUnder?_eq_some_iff :
    lastUnder? name members = some value ↔ LastUnder name members value := by
  constructor
  · intro found
    induction members with
    | nil => simp at found
    | cons head rest ih =>
        cases later : lastUnder? name rest with
        | none =>
            simp only [lastUnder?, later, Option.ite_none_right_eq_some, Option.some.injEq] at found
            obtain ⟨sameName, rfl⟩ := found
            exact ⟨[], rest, by rw [← sameName]; rfl, lastUnder?_eq_none_iff.mp later⟩
        | some last =>
            simp only [lastUnder?, later, Option.some.injEq] at found
            obtain ⟨before, after, split, fresh⟩ := ih (by rw [later, found])
            exact ⟨head :: before, after, by rw [split]; rfl, fresh⟩
  · rintro ⟨before, after, rfl, fresh⟩
    apply lastUnder?_append_of_some
    simp [lastUnder?, lastUnder?_eq_none_iff.mpr fresh]

/-- A member is found exactly if the object holds it. -/
theorem member?_eq_some_iff {object : Value} {name : String} :
    object.member? name = some value ↔ object.Holds name value := by
  cases object with
  | object members => simp [member?, Holds, lastUnder?_eq_some_iff]
  | _ => simp [member?, Holds]

theorem member?_eq_none_iff {object : Value} {name : String} :
    object.member? name = none ↔ object.Lacks name := by
  rw [Option.eq_none_iff_forall_ne_some]
  exact forall_congr' fun value => not_congr member?_eq_some_iff

/-- What an object holds under a name is one value. -/
theorem Holds.unique {object : Value} {name : String} {other : Value}
    (holds : object.Holds name value) (otherHolds : object.Holds name other) : value = other := by
  rw [← member?_eq_some_iff] at holds otherHolds
  exact Option.some.inj (holds.symm.trans otherHolds)

/-- An object that is made of members holds each of them that no later one replaces. -/
theorem holds_record (before : List (String × Value)) {name : String}
    {after : List (String × Value)} (fresh : ∀ member ∈ after, member.1 ≠ name) :
    (record (before ++ (name, value) :: after)).Holds name value := by
  refine ⟨_, rfl, before.map (fun member => (CodePoint.ofText member.1, member.2)),
    after.map (fun member => (CodePoint.ofText member.1, member.2)), by simp, ?_⟩
  rw [List.forall_mem_map]
  intro member memberMem same
  exact fresh member memberMem (CodePoint.ofText_inj.mp same)

/-! ## Entries -/

theorem lastUnder?_concat (name : Key) (members : List Member) (last : Member) :
    lastUnder? name (members ++ [last]) =
      if last.1 = name then some last.2 else lastUnder? name members := by
  induction members with
  | nil => simp [lastUnder?]
  | cons head rest ih =>
      by_cases same : last.1 = name
      · simp [lastUnder?, ih, same]
      · simp [lastUnder?, ih, same]

/-- Members with distinct names are an index. -/
theorem put_eq (members : List Member) (name : Key) (value : Value) :
    put members name value = Index.put name value members := by
  induction members with
  | nil => rfl
  | cons head rest ih => simp only [put, Index.put, ih]

theorem entries_concat (members : List Member) (last : Member) :
    entries (members ++ [last]) = Index.put last.1 last.2 (entries members) := by
  rw [entries, List.foldl_append, ← put_eq]
  rfl

/-- Every name has one entry. -/
theorem distinct_entries (members : List Member) : Index.Distinct (entries members) := by
  induction members using List.reverseRecOn with
  | nil => exact List.nodup_nil
  | append_singleton members last ih =>
      rw [entries_concat]
      exact Index.distinct_put ih last.1 last.2

/-- The entry of a name is its last value. -/
theorem get?_entries (name : Key) (members : List Member) :
    Index.get? name (entries members) = lastUnder? name members := by
  induction members using List.reverseRecOn with
  | nil => rfl
  | append_singleton members last ih =>
      rw [entries_concat, lastUnder?_concat]
      by_cases same : last.1 = name
      · rw [if_pos same, ← same, Index.get?_put_self]
      · rw [if_neg same, Index.get?_put_of_ne _ _ (Ne.symm same), ih]

/-- The entries of an object are what stands last under each of its names. -/
theorem mem_entries_iff : (name, value) ∈ entries members ↔ LastUnder name members value := by
  rw [← lastUnder?_eq_some_iff, ← get?_entries]
  constructor
  · exact Index.get?_of_mem (distinct_entries members)
  · exact Index.mem_of_get?

end FederatedLogin.Json.Value

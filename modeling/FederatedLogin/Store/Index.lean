/-!
# Indexes

An index assigns at most one value to each key.  Its entries stand in the order in which the keys
came in; putting a value under a key that is there leaves the key in its place.
-/

namespace FederatedLogin.Store

/-- Entries, each with its own key. -/
abbrev Index (Key Entry : Type) := List (Key × Entry)

namespace Index

variable {Key Entry : Type} [DecidableEq Key]

/-- The entry under a key. -/
def get? (key : Key) : Index Key Entry → Option Entry
  | [] => none
  | (other, entry) :: rest => if other = key then some entry else get? key rest

/-- Puts an entry under a key. -/
def put (key : Key) (entry : Entry) : Index Key Entry → Index Key Entry
  | [] => [(key, entry)]
  | (other, old) :: rest =>
      if other = key then (other, entry) :: rest else (other, old) :: put key entry rest

/-- Takes the entry under a key away. -/
def remove (key : Key) : Index Key Entry → Index Key Entry
  | [] => []
  | (other, entry) :: rest => if other = key then rest else (other, entry) :: remove key rest

@[simp]
theorem get?_nil (key : Key) : get? key ([] : Index Key Entry) = none :=
  rfl

/-- An entry is found under its key. -/
@[simp]
theorem get?_put_self (key : Key) (entry : Entry) (index : Index Key Entry) :
    get? key (put key entry index) = some entry := by
  induction index with
  | nil => simp [put, get?]
  | cons head rest ih =>
      obtain ⟨other, old⟩ := head
      by_cases same : other = key
      · simp [put, get?, same]
      · simp [put, get?, same, ih]

/-- Nothing changes under other keys. -/
theorem get?_put_of_ne {key other : Key} (entry : Entry) (index : Index Key Entry)
    (differ : other ≠ key) : get? other (put key entry index) = get? other index := by
  induction index with
  | nil => simp [put, get?, Ne.symm differ]
  | cons head rest ih =>
      obtain ⟨first, old⟩ := head
      by_cases same : first = key
      · subst same
        simp [put, get?, Ne.symm differ]
      · by_cases hit : first = other
        · subst hit
          simp [put, get?, differ]
        · simp [put, get?, same, hit, ih]

/-- The keys of an index, in the order in which they came in. -/
def keys (index : Index Key Entry) : List Key :=
  index.map Prod.fst

/-- Whether no key stands twice. -/
def Distinct (index : Index Key Entry) : Prop :=
  index.keys.Nodup

theorem get?_eq_none_iff {key : Key} {index : Index Key Entry} :
    get? key index = none ↔ key ∉ index.keys := by
  induction index with
  | nil => simp [keys]
  | cons head rest ih =>
      by_cases same : head.1 = key
      · simp [get?, keys, same]
      · simpa [get?, keys, same, Ne.symm same] using ih

/-- Whatever is found under a key stands in the index. -/
theorem mem_of_get? {key : Key} {entry : Entry} {index : Index Key Entry}
    (found : get? key index = some entry) : (key, entry) ∈ index := by
  induction index with
  | nil => simp at found
  | cons head rest ih =>
      obtain ⟨other, old⟩ := head
      by_cases same : other = key
      · subst same
        simp only [get?, if_true, Option.some.injEq] at found
        simp [found]
      · simp only [get?, same, if_false] at found
        exact List.mem_cons_of_mem _ (ih found)

/-- What is found under a key is the first entry that stands under it. -/
theorem find?_eq [BEq Key] [LawfulBEq Key] (key : Key) (index : Index Key Entry) :
    index.find? (·.1 == key) = (get? key index).map fun entry => (key, entry) := by
  induction index with
  | nil => rfl
  | cons head rest ih =>
      by_cases same : head.1 = key
      · simp [get?, ← same]
      · simp [get?, same, ih]

/-- Where no key stands twice, every entry is found. -/
theorem get?_of_mem {key : Key} {entry : Entry} {index : Index Key Entry}
    (distinct : index.Distinct) (entryMem : (key, entry) ∈ index) :
    get? key index = some entry := by
  induction index with
  | nil => simp at entryMem
  | cons head rest ih =>
      obtain ⟨other, old⟩ := head
      obtain ⟨otherFresh, restDistinct⟩ := List.nodup_cons.mp distinct
      rcases List.mem_cons.mp entryMem with here | inRest
      · cases here
        simp [get?]
      · have differ : other ≠ key := by
          rintro rfl
          exact otherFresh (List.mem_map.mpr ⟨_, inRest, rfl⟩)
        rw [get?, if_neg differ]
        exact ih restDistinct inRest

/-- A new key goes to the end. -/
theorem put_of_absent {key : Key} (entry : Entry) {index : Index Key Entry}
    (absent : get? key index = none) : put key entry index = index ++ [(key, entry)] := by
  induction index with
  | nil => rfl
  | cons head rest ih =>
      by_cases same : head.1 = key
      · simp [get?, same] at absent
      · simp only [get?, same, if_false] at absent
        simp [put, same, ih absent]

/-- An entry under a key that is there takes the place of the old one. -/
theorem put_of_present {key : Key} {old : Entry} (entry : Entry) {index : Index Key Entry}
    (distinct : index.Distinct) (present : get? key index = some old) :
    put key entry index =
      index.map fun member => if member.1 = key then (key, entry) else member := by
  induction index with
  | nil => simp at present
  | cons head rest ih =>
      obtain ⟨other, first⟩ := head
      obtain ⟨otherFresh, restDistinct⟩ := List.nodup_cons.mp distinct
      by_cases same : other = key
      · subst same
        have restSame : (rest.map fun member =>
            if member.1 = other then (other, entry) else member) = rest := by
          rw [List.map_congr_left (g := id), List.map_id]
          intro member memberMem
          have differ : member.1 ≠ other := fun same =>
            otherFresh (List.mem_map.mpr ⟨member, memberMem, same⟩)
          rw [if_neg differ, id]
        simp [put, restSame]
      · simp only [get?, same, if_false] at present
        simp [put, same, ih restDistinct present]

/-- A key that is there stays where it is. -/
theorem keys_put_of_present {key : Key} {old : Entry} (entry : Entry) {index : Index Key Entry}
    (distinct : index.Distinct) (present : get? key index = some old) :
    (put key entry index).keys = index.keys := by
  rw [put_of_present entry distinct present, keys, keys, List.map_map]
  apply List.map_congr_left
  intro member _
  by_cases same : member.1 = key
  · simp [same]
  · simp [same]

/-- No key stands twice after an entry is put in. -/
theorem distinct_put {index : Index Key Entry} (distinct : index.Distinct) (key : Key)
    (entry : Entry) : (put key entry index).Distinct := by
  cases present : get? key index with
  | none =>
      rw [put_of_absent entry present, Distinct, keys, List.map_append, List.nodup_append]
      refine ⟨distinct, by simp, ?_⟩
      rintro other otherMem _ keyMem rfl
      simp only [List.map_cons, List.map_nil, List.mem_singleton] at keyMem
      exact get?_eq_none_iff.mp present (keyMem ▸ otherMem)
  | some old =>
      rw [Distinct, keys_put_of_present entry distinct present]
      exact distinct

/-- Putting an entry in brings no other entry in. -/
theorem mem_put {key : Key} {entry : Entry} {index : Index Key Entry} {member : Key × Entry}
    (memberMem : member ∈ put key entry index) : member ∈ index ∨ member.2 = entry := by
  induction index with
  | nil =>
      rw [put, List.mem_singleton] at memberMem
      rw [memberMem]
      exact .inr rfl
  | cons head rest ih =>
      by_cases same : head.1 = key
      · simp only [put, same, if_true] at memberMem
        rcases List.mem_cons.mp memberMem with rfl | inRest
        · exact .inr rfl
        · exact .inl (List.mem_cons_of_mem _ inRest)
      · simp only [put, same, if_false] at memberMem
        rcases List.mem_cons.mp memberMem with rfl | inRest
        · exact .inl List.mem_cons_self
        · rcases ih inRest with old | new
          · exact .inl (List.mem_cons_of_mem _ old)
          · exact .inr new

theorem keys_remove (key : Key) (index : Index Key Entry) :
    (remove key index).keys = index.keys.erase key := by
  induction index with
  | nil => rfl
  | cons head rest ih =>
      by_cases same : head.1 = key
      · simp [remove, keys, same]
      · simpa [remove, keys, same] using ih

/-- No key stands twice after an entry is taken away. -/
theorem distinct_remove {index : Index Key Entry} (distinct : index.Distinct) (key : Key) :
    (remove key index).Distinct := by
  rw [Distinct, keys_remove]
  exact List.Nodup.erase key distinct

/-- Nothing is left under a key whose entry was taken away. -/
theorem get?_remove_self {index : Index Key Entry} (distinct : index.Distinct) (key : Key) :
    get? key (remove key index) = none := by
  rw [get?_eq_none_iff, keys_remove]
  exact List.Nodup.not_mem_erase distinct

/-- Nothing is lost under other keys. -/
theorem get?_remove_of_ne {key other : Key} (index : Index Key Entry) (differ : other ≠ key) :
    get? other (remove key index) = get? other index := by
  induction index with
  | nil => rfl
  | cons head rest ih =>
      by_cases same : head.1 = key
      · simp [remove, get?, same, Ne.symm differ]
      · simp [remove, get?, same, ih]

end Index

end FederatedLogin.Store

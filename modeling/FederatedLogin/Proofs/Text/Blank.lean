import FederatedLogin.Text.Blank
import Mathlib.Data.List.DropRight

/-!
# What is left of a text

A text that ends in a character that stays is kept as far as that character.  What is left of a text
is told by what it is between: characters that are dropped, and nothing that is at its own ends.
-/

namespace FederatedLogin.Text

variable {drops : Char → Bool} {source : List Char}

theorem dropEndWhile_eq (drops : Char → Bool) (source : List Char) :
    dropEndWhile drops source = source.rdropWhile drops :=
  rfl

theorem dropEndWhile_isPrefix (drops : Char → Bool) (source : List Char) :
    dropEndWhile drops source <+: source :=
  source.rdropWhile_prefix drops

theorem dropEndWhile_dropEndWhile (drops : Char → Bool) (source : List Char) :
    dropEndWhile drops (dropEndWhile drops source) = dropEndWhile drops source :=
  List.rdropWhile_idempotent drops source

/-- What stands up to a character that stays is kept. -/
theorem dropEndWhile_append_cons (drops : Char → Bool) {mark : Char} (stays : drops mark = false)
    (before after : List Char) : dropEndWhile drops (before ++ mark :: after) =
      before ++ mark :: dropEndWhile drops after := by
  simp only [dropEndWhile_eq]
  induction after using List.reverseRecOn with
  | nil =>
      have notDropped : ¬ drops mark = true := by simp [stays]
      rw [List.rdropWhile_concat_neg _ _ _ notDropped, List.rdropWhile_nil]
  | append_singleton rest last ih =>
      have regroup : before ++ mark :: (rest ++ [last]) = (before ++ mark :: rest) ++ [last] := by
        simp
      rw [regroup, List.rdropWhile_concat, List.rdropWhile_concat]
      by_cases dropped : drops last
      · rw [if_pos dropped, if_pos dropped, ih]
      · rw [if_neg dropped, if_neg dropped, regroup]

/-- A text that ends in a character that stays is kept. -/
theorem dropEndWhile_eq_self (stays : ∀ nonempty : source ≠ [],
    drops (source.getLast nonempty) = false) : dropEndWhile drops source = source := by
  rw [dropEndWhile_eq, List.rdropWhile_eq_self_iff]
  intro nonempty
  simp [stays nonempty]

theorem trimWhile_eq_self (stay : ∀ value ∈ source, drops value = false) :
    trimWhile drops source = source := by
  have fromFront : source.dropWhile drops = source := by
    rw [List.dropWhile_eq_self_iff]
    intro nonempty
    simp [stay _ (List.getElem_mem nonempty)]
  rw [trimWhile, fromFront]
  exact dropEndWhile_eq_self fun nonempty => stay _ (List.getLast_mem nonempty)

/-- What is dropped at the end may as well not be there. -/
theorem dropEndWhile_append_of_drops {after : List Char} (dropped : ∀ value ∈ after, drops value)
    (source : List Char) : dropEndWhile drops (source ++ after) = dropEndWhile drops source := by
  have droppedReverse : ∀ value ∈ after.reverse, drops value := by simpa using dropped
  rw [dropEndWhile, List.reverse_append, List.dropWhile_append_of_pos droppedReverse, dropEndWhile]

/-! ## Texts that are trimmed -/

/-- What is left of a text without the characters at its ends that satisfy a predicate. -/
structure IsTrimmed (drops : Char → Bool) (source kept : List Char) : Prop where
  exists_ends : ∃ before after, source = before ++ kept ++ after ∧
    (∀ value ∈ before, drops value) ∧ ∀ value ∈ after, drops value
  first_stays : ∀ value ∈ kept.head?, drops value = false
  last_stays : ∀ value ∈ kept.getLast?, drops value = false

theorem isTrimmed_trimWhile (drops : Char → Bool) (source : List Char) :
    IsTrimmed drops source (trimWhile drops source) where
  exists_ends := by
    refine ⟨source.takeWhile drops, (source.dropWhile drops).rtakeWhile drops, ?_,
      fun value => List.mem_takeWhile_imp, fun value => List.mem_rtakeWhile_imp⟩
    rw [trimWhile, dropEndWhile_eq, List.append_assoc, List.rdropWhile_append_rtakeWhile,
      List.takeWhile_append_dropWhile]
  first_stays := by
    intro value isFirst
    obtain ⟨rest, whole⟩ := dropEndWhile_isPrefix drops (source.dropWhile drops)
    have first : (source.dropWhile drops).head? = some value := by
      have atHead : (dropEndWhile drops (source.dropWhile drops)).head? = some value := isFirst
      rw [← whole, List.head?_append, atHead, Option.some_or]
    have stays := List.head?_dropWhile_not drops source
    simpa [first] using stays
  last_stays := by
    intro value isLast
    obtain ⟨nonempty, rfl⟩ := List.mem_getLast?_eq_getLast isLast
    exact Bool.eq_false_iff.mpr (List.rdropWhile_last_not drops _ nonempty)

/-- Nothing else is left. -/
theorem IsTrimmed.trimWhile_eq {kept : List Char} (trimmed : IsTrimmed drops source kept) :
    trimWhile drops source = kept := by
  obtain ⟨before, after, rfl, droppedBefore, droppedAfter⟩ := trimmed.exists_ends
  rw [trimWhile, List.append_assoc, List.dropWhile_append_of_pos droppedBefore]
  cases kept with
  | nil =>
      rw [List.nil_append, List.dropWhile_eq_nil_iff.mpr droppedAfter]
      rfl
  | cons first rest =>
      have firstStays := trimmed.first_stays first rfl
      rw [List.cons_append, List.dropWhile_cons_of_neg (by simp [firstStays]), ← List.cons_append,
        dropEndWhile_append_of_drops droppedAfter]
      apply dropEndWhile_eq_self
      intro nonempty
      exact trimmed.last_stays _ (List.getLast?_eq_some_getLast nonempty)

theorem isTrimmed_iff {kept : List Char} :
    IsTrimmed drops source kept ↔ trimWhile drops source = kept :=
  ⟨IsTrimmed.trimWhile_eq, fun same => same ▸ isTrimmed_trimWhile drops source⟩

/-- What stays at the ends stays everywhere. -/
theorem mem_trimWhile_of_stays {value : Char} (valueMem : value ∈ source)
    (stays : drops value = false) : value ∈ trimWhile drops source := by
  obtain ⟨before, after, whole, droppedBefore, droppedAfter⟩ :=
    (isTrimmed_trimWhile drops source).exists_ends
  have notDropped {ends : List Char} (dropped : ∀ other ∈ ends, drops other) : value ∉ ends := by
    intro endsMem
    rw [dropped value endsMem] at stays
    cases stays
  rw [whole, List.mem_append, List.mem_append] at valueMem
  rcases valueMem with (beforeMem | kept) | afterMem
  · exact absurd beforeMem (notDropped droppedBefore)
  · exact kept
  · exact absurd afterMem (notDropped droppedAfter)

/-- What is dropped may as well not be there. -/
theorem trimWhile_append_of_drops {before after : List Char}
    (droppedBefore : ∀ value ∈ before, drops value) (droppedAfter : ∀ value ∈ after, drops value)
    (source : List Char) : trimWhile drops (before ++ source ++ after) = trimWhile drops source := by
  have trimmed := isTrimmed_trimWhile drops source
  generalize trimWhile drops source = kept at trimmed
  obtain ⟨⟨first, last, rfl, droppedFirst, droppedLast⟩, firstStays, lastStays⟩ := trimmed
  refine IsTrimmed.trimWhile_eq ⟨⟨before ++ first, last ++ after, ?_, ?_, ?_⟩, firstStays, lastStays⟩
  · simp only [List.append_assoc]
  · exact List.forall_mem_append.mpr ⟨droppedBefore, droppedFirst⟩
  · exact List.forall_mem_append.mpr ⟨droppedLast, droppedAfter⟩

/-- What stays can stand behind a text that has nothing left to drop. -/
theorem trimWhile_append_of_stays {after : List Char} (trimmed : trimWhile drops source = source)
    (stay : ∀ value ∈ after, drops value = false) :
    trimWhile drops (source ++ after) = source ++ after := by
  have isTrimmed := isTrimmed_iff.mpr trimmed
  refine IsTrimmed.trimWhile_eq ⟨⟨[], [], by simp, by simp, by simp⟩, ?_, ?_⟩
  · intro value isFirst
    rw [List.head?_append, Option.mem_def, Option.or_eq_some_iff] at isFirst
    rcases isFirst with inSource | ⟨_, inAfter⟩
    · exact isTrimmed.first_stays value inSource
    · exact stay value (List.mem_of_mem_head? inAfter)
  · intro value isLast
    rw [List.getLast?_append, Option.mem_def, Option.or_eq_some_iff] at isLast
    rcases isLast with inAfter | ⟨_, inSource⟩
    · exact stay value (List.mem_of_getLast? inAfter)
    · exact isTrimmed.last_stays value inSource

/-- Nothing is left exactly if everything is dropped. -/
theorem trimWhile_eq_nil_iff : trimWhile drops source = [] ↔ ∀ value ∈ source, drops value := by
  constructor
  · intro nothing
    obtain ⟨before, after, source_eq, droppedBefore, droppedAfter⟩ :=
      (isTrimmed_iff.mpr nothing).exists_ends
    rw [source_eq, List.append_nil, List.forall_mem_append]
    exact ⟨droppedBefore, droppedAfter⟩
  · intro dropped
    exact IsTrimmed.trimWhile_eq
      ⟨⟨source, [], by simp, dropped, List.forall_mem_nil _⟩, by simp, by simp⟩

theorem strip_eq_empty_iff {written : String} :
    strip written = "" ↔ ∀ value ∈ written.toList, isBlank value := by
  rw [strip, String.ofList_eq_empty_iff, trimWhile_eq_nil_iff]

end FederatedLogin.Text

import FederatedLogin.Text.Separated
import Mathlib.Data.List.TakeWhile

/-!
# Cutting and joining

Parts are cut where they were joined: a text is determined by its parts, and parts that hold no
separator by their text.
-/

namespace FederatedLogin.Text

variable {α : Type} [DecidableEq α] {separator : α}

/-! ## Parts -/

theorem partsAt_cons (separator value : α) (source : List α) :
    partsAt separator (value :: source) = cut separator value (partsAt separator source) :=
  rfl

theorem cut_separator (separator : α) (parts : List (List α)) :
    cut separator separator parts = [] :: parts :=
  if_pos rfl

theorem cut_of_ne {value : α} (other : value ≠ separator) (first : List α)
    (others : List (List α)) :
    cut separator value (first :: others) = (value :: first) :: others :=
  if_neg other

theorem exists_partsAt (separator : α) (source : List α) :
    ∃ first others, partsAt separator source = first :: others :=
  List.exists_cons_of_ne_nil (partsAt_ne_nil separator source)

/-- No part holds a separator. -/
theorem not_mem_of_mem_partsAt {source part : List α} (partMem : part ∈ partsAt separator source) :
    separator ∉ part := by
  induction source generalizing part with
  | nil =>
      rw [partsAt_nil, List.mem_singleton] at partMem
      rw [partMem]
      exact List.not_mem_nil
  | cons value rest ih =>
      rw [partsAt_cons] at partMem
      by_cases isSeparator : value = separator
      · rw [isSeparator, cut_separator] at partMem
        rcases List.mem_cons.mp partMem with rfl | restMem
        · exact List.not_mem_nil
        · exact ih restMem
      · obtain ⟨first, others, found⟩ := exists_partsAt separator rest
        rw [found, cut_of_ne isSeparator] at partMem
        rw [found] at ih
        rcases List.mem_cons.mp partMem with rfl | otherMem
        · intro separatorMem
          rcases List.mem_cons.mp separatorMem with same | firstMem
          · exact isSeparator same.symm
          · exact ih (List.mem_cons_self ..) firstMem
        · exact ih (List.mem_cons_of_mem _ otherMem)

/-- A change that only the separator comes to the separator by is made in every part. -/
theorem partsAt_map {change : α → α} (kept : ∀ value, change value = separator ↔ value = separator)
    (source : List α) :
    partsAt separator (source.map change) = (partsAt separator source).map (List.map change) := by
  induction source with
  | nil => rfl
  | cons value rest ih =>
      obtain ⟨first, others, parts⟩ := exists_partsAt separator rest
      rw [List.map_cons, partsAt_cons, partsAt_cons, ih, parts]
      by_cases isSeparator : value = separator
      · rw [isSeparator, (kept separator).mpr rfl, cut_separator, cut_separator]
        rfl
      · have stays : change value ≠ separator := fun becomes => isSeparator ((kept value).mp becomes)
        rw [cut_of_ne isSeparator, List.map_cons, cut_of_ne stays]
        rfl

/-- What holds no separator is a single part. -/
theorem partsAt_of_not_mem {source : List α} (absent : separator ∉ source) :
    partsAt separator source = [source] := by
  induction source with
  | nil => rfl
  | cons value rest ih =>
      rw [List.mem_cons, not_or] at absent
      rw [partsAt_cons, ih absent.2, cut_of_ne (Ne.symm absent.1)]

/-- At a separator, parts before it and parts after it meet. -/
theorem partsAt_append_cons (separator : α) (before after : List α) :
    partsAt separator (before ++ separator :: after) =
      partsAt separator before ++ partsAt separator after := by
  induction before with
  | nil =>
      rw [List.nil_append, partsAt_cons, cut_separator]
      rfl
  | cons value rest ih =>
      rw [List.cons_append, partsAt_cons, ih, partsAt_cons]
      by_cases isSeparator : value = separator
      · rw [isSeparator, cut_separator, cut_separator]
        rfl
      · obtain ⟨first, others, found⟩ := exists_partsAt separator rest
        rw [found, cut_of_ne isSeparator, List.cons_append, cut_of_ne isSeparator]
        rfl

/-- Parts that hold no separator are cut where they were joined. -/
theorem partsAt_joinAt {parts : List (List α)} (nonempty : parts ≠ [])
    (absent : ∀ part ∈ parts, separator ∉ part) :
    partsAt separator (joinAt separator parts) = parts := by
  induction parts with
  | nil => exact absurd rfl nonempty
  | cons part rest ih =>
      have partAlone := partsAt_of_not_mem (absent part (List.mem_cons_self ..))
      cases rest with
      | nil => exact partAlone
      | cons next others =>
          have restJoined := ih (List.cons_ne_nil _ _) fun other otherMem =>
            absent other (List.mem_cons_of_mem _ otherMem)
          have joined : joinAt separator (part :: next :: others) =
              part ++ separator :: joinAt separator (next :: others) := rfl
          rw [joined, partsAt_append_cons, partAlone, restJoined]
          rfl

omit [DecidableEq α] in
/-- A part behind others is joined to them by a separator. -/
theorem joinAt_concat {parts : List (List α)} (nonempty : parts ≠ []) (part : List α) :
    joinAt separator (parts ++ [part]) = joinAt separator parts ++ separator :: part := by
  induction parts with
  | nil => exact absurd rfl nonempty
  | cons first rest ih =>
      cases rest with
      | nil => rfl
      | cons next others =>
          have restJoined := ih (List.cons_ne_nil _ _)
          simp only [List.cons_append] at restJoined ⊢
          simp only [joinAt, restJoined, List.append_assoc, List.cons_append]

omit [DecidableEq α] in
/-- What is in a joined text is a separator or comes from a part. -/
theorem mem_joinAt {value : α} {parts : List (List α)} (valueMem : value ∈ joinAt separator parts) :
    value = separator ∨ ∃ part ∈ parts, value ∈ part := by
  induction parts with
  | nil => cases valueMem
  | cons part rest ih =>
      cases rest with
      | nil => exact .inr ⟨part, List.mem_singleton_self _, valueMem⟩
      | cons next others =>
          have joined : joinAt separator (part :: next :: others) =
              part ++ separator :: joinAt separator (next :: others) := rfl
          rw [joined, List.mem_append, List.mem_cons] at valueMem
          rcases valueMem with partMem | isSeparator | restMem
          · exact .inr ⟨part, List.mem_cons_self .., partMem⟩
          · exact .inl isSeparator
          · rcases ih restMem with isSeparator | ⟨other, otherMem, valueMem⟩
            · exact .inl isSeparator
            · exact .inr ⟨other, List.mem_cons_of_mem _ otherMem, valueMem⟩

/-! ## The last mark -/

variable {mark : α}

/-- A text is cut at a mark that no other mark follows. -/
theorem splitLast?_append {after : List α} (absent : mark ∉ after) (before : List α) :
    splitLast? mark (before ++ mark :: after) = some (before, after) := by
  have taken : (before ++ mark :: after).reverse.takeWhile (· != mark) = after.reverse := by
    have others : ∀ value ∈ after.reverse, (value != mark) = true := by
      intro value valueMem
      rw [bne_iff_ne]
      rintro rfl
      exact absent (List.mem_reverse.mp valueMem)
    have regroup : (before ++ mark :: after).reverse =
        after.reverse ++ mark :: before.reverse := by
      simp
    rw [regroup, List.takeWhile_append_of_pos others, List.takeWhile_cons_of_neg (by simp),
      List.append_nil]
  have shorter : after.reverse.length < (before ++ mark :: after).length := by
    simp only [List.length_reverse, List.length_append, List.length_cons]
    omega
  have cutAt : (before ++ mark :: after).length - after.reverse.length - 1 = before.length := by
    simp only [List.length_reverse, List.length_append, List.length_cons]
    omega
  simp only [splitLast?, taken, if_pos shorter, cutAt, List.take_left', List.reverse_reverse]

theorem splitLast?_of_not_mem {source : List α} (absent : mark ∉ source) :
    splitLast? mark source = none := by
  have taken : source.reverse.takeWhile (· != mark) = source.reverse := by
    rw [List.takeWhile_eq_self_iff]
    intro value valueMem
    rw [bne_iff_ne]
    rintro rfl
    exact absent (List.mem_reverse.mp valueMem)
  simp only [splitLast?, taken, List.length_reverse, Nat.lt_irrefl, if_false]

/-- A text has no mark, or it is cut at its last one. -/
theorem splitLast?_cases (mark : α) (source : List α) :
    (mark ∉ source ∧ splitLast? mark source = none) ∨
      ∃ before after, source = before ++ mark :: after ∧ mark ∉ after ∧
        splitLast? mark source = some (before, after) := by
  by_cases present : mark ∈ source
  · obtain ⟨after, before, reversed, absent⟩ :=
      List.eq_append_cons_of_mem (List.mem_reverse.mpr present)
    have source_eq : source = before.reverse ++ mark :: after.reverse := by
      rw [← source.reverse_reverse, reversed]
      simp
    have lastMark : mark ∉ after.reverse := by
      rwa [List.mem_reverse]
    refine .inr ⟨before.reverse, after.reverse, source_eq, lastMark, ?_⟩
    rw [source_eq, splitLast?_append lastMark]
  · exact .inl ⟨present, splitLast?_of_not_mem present⟩

end FederatedLogin.Text

import FederatedLogin.Address.Path
import FederatedLogin.Proofs.Address.Quote
import FederatedLogin.Proofs.Text.Blank
import FederatedLogin.Proofs.Text.Separated

/-!
# Paths in normal form

A path in normal form is empty or starts at the root, and has no dot segments.  To normalize a path
from the root gives one, quoting it keeps the form, and so does dropping the slashes at its end or
putting segments behind it.
-/

namespace FederatedLogin.Address.Path

open FederatedLogin.Text

/-- Whether a segment is none of those that are followed and dropped. -/
def IsPlain (segment : List Char) : Prop :=
  segment ≠ ['.'] ∧ segment ≠ ['.', '.']

/-- Whether a path is in normal form. -/
structure IsNormal (path : List Char) : Prop where
  rooted : path = [] ∨ path.head? = some '/'
  plain : ∀ segment ∈ partsAt '/' path, IsPlain segment

variable {path : List Char}

/-- The segments of a path that is empty or starts at the root start with the empty one. -/
theorem exists_partsAt_of_rooted (rooted : path = [] ∨ path.head? = some '/') :
    ∃ segments, partsAt '/' path = [] :: segments := by
  rcases rooted with rfl | slash
  · exact ⟨[], rfl⟩
  · obtain ⟨rest, rfl⟩ : ∃ rest, path = '/' :: rest := by
      cases path with
      | nil => cases slash
      | cons first rest =>
          cases slash
          exact ⟨rest, rfl⟩
    exact ⟨partsAt '/' rest, by rw [partsAt_cons, cut_separator]⟩

/-- A path in normal form is not changed. -/
theorem IsNormal.normalize_eq (normal : IsNormal path) : normalize path = path := by
  rw [normalize, foldl_follow_of_noDots [] normal.plain, List.append_nil, List.reverse_reverse,
    joinAt_partsAt]

/-! ## Normalizing -/

/-- The segments kept while a path is followed from the root: the root itself, and plain segments
above it. -/
structure IsKept (kept : List (List Char)) : Prop where
  root : kept.getLast? = some []
  plain : ∀ segment ∈ kept, IsPlain segment
  whole : ∀ segment ∈ kept, '/' ∉ segment

theorem IsKept.ne_nil {kept : List (List Char)} (isKept : IsKept kept) : kept ≠ [] := by
  rintro rfl
  cases isKept.root

theorem IsKept.follow {kept : List (List Char)} (isKept : IsKept kept) {segment : List Char}
    (whole : '/' ∉ segment) : IsKept (follow kept segment) := by
  rw [Path.follow]
  by_cases here : segment = ['.']
  · rwa [if_pos here]
  · rw [if_neg here]
    by_cases above : segment = ['.', '.']
    · rw [if_pos above]
      by_cases atRoot : kept = [] ∨ kept = [[]]
      · rwa [if_pos atRoot]
      · rw [if_neg atRoot]
        rw [not_or] at atRoot
        obtain ⟨last, rest, rfl⟩ := List.exists_cons_of_ne_nil atRoot.1
        have restRoot : rest.getLast? = some [] := by
          cases rest with
          | nil =>
              have root := isKept.root
              rw [List.getLast?_singleton, Option.some.injEq] at root
              exact absurd (by rw [root]) atRoot.2
          | cons next others => simpa using isKept.root
        constructor
        · exact restRoot
        · intro other otherMem
          exact isKept.plain other (List.mem_cons_of_mem _ otherMem)
        · intro other otherMem
          exact isKept.whole other (List.mem_cons_of_mem _ otherMem)
    · rw [if_neg above]
      constructor
      · rw [List.getLast?_cons, isKept.root]
        rfl
      · intro other otherMem
        rcases List.mem_cons.mp otherMem with rfl | keptMem
        · exact ⟨here, above⟩
        · exact isKept.plain other keptMem
      · intro other otherMem
        rcases List.mem_cons.mp otherMem with rfl | keptMem
        · exact whole
        · exact isKept.whole other keptMem

theorem IsKept.foldl {segments : List (List Char)} (whole : ∀ segment ∈ segments, '/' ∉ segment)
    {kept : List (List Char)} (isKept : IsKept kept) :
    IsKept (segments.foldl Path.follow kept) := by
  induction segments generalizing kept with
  | nil => exact isKept
  | cons segment rest ih =>
      rw [List.foldl_cons]
      apply ih
      · intro other otherMem
        exact whole other (List.mem_cons_of_mem _ otherMem)
      · exact isKept.follow (whole segment (List.mem_cons_self ..))

/-- The segments kept, put together from the root. -/
theorem IsKept.isNormal {kept : List (List Char)} (isKept : IsKept kept) :
    IsNormal (joinAt '/' kept.reverse) := by
  obtain ⟨above, rfl⟩ := List.getLast?_eq_some_iff.mp isKept.root
  have parts : partsAt '/' (joinAt '/' (above ++ [[]]).reverse) = (above ++ [[]]).reverse := by
    apply partsAt_joinAt
    · simp
    · intro segment segmentMem
      exact isKept.whole segment (List.mem_reverse.mp segmentMem)
  constructor
  · rw [List.reverse_append, List.reverse_singleton, List.singleton_append]
    cases above.reverse with
    | nil => exact .inl rfl
    | cons next others => exact .inr rfl
  · intro segment segmentMem
    rw [parts, List.mem_reverse] at segmentMem
    exact isKept.plain segment segmentMem

theorem isKept_of_rooted (rooted : path = [] ∨ path.head? = some '/') :
    IsKept ((partsAt '/' path).foldl Path.follow []) := by
  obtain ⟨segments, parts⟩ := exists_partsAt_of_rooted rooted
  have atRoot : IsKept [[]] := ⟨rfl, by simp [IsPlain], by simp⟩
  have followed : IsKept (segments.foldl Path.follow [[]]) := by
    apply IsKept.foldl _ atRoot
    intro segment segmentMem
    exact not_mem_of_mem_partsAt (parts ▸ List.mem_cons_of_mem _ segmentMem)
  rwa [parts]

theorem isNormal_normalize (rooted : path = [] ∨ path.head? = some '/') :
    IsNormal (normalize path) :=
  (isKept_of_rooted rooted).isNormal

/-- An empty segment behind a path is kept, whatever segment it stands behind. -/
theorem normalize_append_slash (rooted : path = [] ∨ path.head? = some '/') :
    normalize (path ++ ['/']) = normalize path ++ ['/'] := by
  have nonempty := (isKept_of_rooted rooted).ne_nil
  have follow_nil (kept : List (List Char)) : follow kept [] = [] :: kept := rfl
  simp only [normalize, partsAt_append_cons, partsAt_nil, List.foldl_append, List.foldl_cons,
    List.foldl_nil, follow_nil, List.reverse_cons]
  exact joinAt_concat (by simpa using nonempty) []

/-! ## Quoting -/

theorem slash_not_mem_quote {segment : List Char} (whole : '/' ∉ segment) :
    '/' ∉ Quote.quote Quote.isPathSafe segment := by
  intro slashMem
  exact whole (Quote.mem_of_mem_quote ⟨by decide, by decide⟩ slashMem)

theorem quote_joinAt (segments : List (List Char)) :
    Quote.quote Quote.isPathSafe (joinAt '/' segments) =
      joinAt '/' (segments.map (Quote.quote Quote.isPathSafe)) := by
  induction segments with
  | nil => rfl
  | cons segment rest ih =>
      cases rest with
      | nil => rfl
      | cons next others =>
          have joined : joinAt '/' (segment :: next :: others) =
              segment ++ '/' :: joinAt '/' (next :: others) := rfl
          have slashKept : Quote.quoteChar Quote.isPathSafe '/' = ['/'] := rfl
          rw [joined, Quote.quote_append, Quote.quote_cons, ih, slashKept]
          rfl

theorem IsPlain.quote {segment : List Char} (plain : IsPlain segment) :
    IsPlain (Quote.quote Quote.isPathSafe segment) := by
  constructor
  · intro quoted
    have same := Quote.quote_eq_self_of_not_mem (quoted ▸ (by decide) :
      '%' ∉ Quote.quote Quote.isPathSafe segment)
    exact plain.1 (same.symm.trans quoted)
  · intro quoted
    have same := Quote.quote_eq_self_of_not_mem (quoted ▸ (by decide) :
      '%' ∉ Quote.quote Quote.isPathSafe segment)
    exact plain.2 (same.symm.trans quoted)

theorem IsNormal.quote (normal : IsNormal path) :
    IsNormal (Quote.quote Quote.isPathSafe path) := by
  have parts : partsAt '/' (Quote.quote Quote.isPathSafe path) =
      (partsAt '/' path).map (Quote.quote Quote.isPathSafe) := by
    rw [← joinAt_partsAt '/' path, quote_joinAt, joinAt_partsAt]
    apply partsAt_joinAt
    · simp [partsAt_ne_nil]
    · intro segment segmentMem
      obtain ⟨original, originalMem, rfl⟩ := List.mem_map.mp segmentMem
      exact slash_not_mem_quote (not_mem_of_mem_partsAt originalMem)
  constructor
  · rcases normal.rooted with rfl | slash
    · exact .inl rfl
    · cases path with
      | nil => cases slash
      | cons first rest =>
          cases slash
          exact .inr rfl
  · intro segment segmentMem
    rw [parts, List.mem_map] at segmentMem
    obtain ⟨original, originalMem, rfl⟩ := segmentMem
    exact (normal.plain original originalMem).quote

/-! ## Ends of paths -/

/-- A path in normal form stays so without the slashes at its end. -/
theorem IsNormal.withoutEndSlashes (normal : IsNormal path) :
    IsNormal (dropEndWhile (· == '/') path) := by
  have whole : dropEndWhile (· == '/') path ++ path.rtakeWhile (· == '/') = path :=
    List.rdropWhile_append_rtakeWhile
  cases dropped : path.rtakeWhile (· == '/') with
  | nil =>
      rw [dropped, List.append_nil] at whole
      rwa [whole]
  | cons first rest =>
      have isSlash : first = '/' := by
        have taken := List.mem_rtakeWhile_imp (dropped ▸ List.mem_cons_self .. :
          first ∈ path.rtakeWhile (· == '/'))
        simpa using taken
      rw [dropped, isSlash] at whole
      constructor
      · rcases normal.rooted with rfl | slash
        · exact .inl rfl
        · rw [← whole] at slash
          cases kept : dropEndWhile (· == '/') path with
          | nil => exact .inl rfl
          | cons head others =>
              rw [kept] at slash
              exact .inr slash
      · intro segment segmentMem
        apply normal.plain
        rw [← whole, partsAt_append_cons]
        exact List.mem_append_left _ segmentMem

/-- Plain segments can stand behind a path in normal form. -/
theorem IsNormal.append (normal : IsNormal path) {below : List Char}
    (plain : ∀ segment ∈ partsAt '/' below, IsPlain segment) :
    IsNormal (path ++ '/' :: below) := by
  constructor
  · rcases normal.rooted with rfl | slash
    · exact .inr rfl
    · cases path with
      | nil => cases slash
      | cons first rest => exact .inr slash
  · intro segment segmentMem
    rw [partsAt_append_cons] at segmentMem
    rcases List.mem_append.mp segmentMem with pathMem | belowMem
    · exact normal.plain segment pathMem
    · exact plain segment belowMem

end FederatedLogin.Address.Path

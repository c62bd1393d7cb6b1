import FederatedLogin.Proofs.Files.Directories
import FederatedLogin.Proofs.Text.Separated

/-!
# Places

The place that a path means by its wording has no steps upwards left in it: it is a row of names.
Written out from the root it is found again.
-/

namespace FederatedLogin.Files

open FederatedLogin.Text

/-- A name that leads one directory down. -/
structure IsName (part : List UInt8) : Prop where
  nonempty : part ≠ []
  notHere : part ≠ here
  notAbove : part ≠ above
  noSlash : slash ∉ part

/-- A row of names. -/
def IsPlace (place : FilePath) : Prop :=
  ∀ part ∈ place, IsName part

variable {files : Files} {place : FilePath}

/-- The parts of a path are names or steps upwards. -/
theorem isName_of_mem_partsOf {path part : List UInt8} (partMem : part ∈ partsOf path)
    (notAbove : part ≠ above) : IsName part := by
  obtain ⟨isPart, kept⟩ := List.mem_filter.mp partMem
  rw [Bool.and_eq_true, Bool.not_eq_true', List.isEmpty_eq_false_iff, bne_iff_ne] at kept
  exact ⟨kept.1, kept.2, notAbove, not_mem_of_mem_partsAt isPart⟩

theorem IsPlace.step (isPlace : IsPlace place) {part : List UInt8}
    (named : part ≠ above → IsName part) : IsPlace (step place part) := by
  rw [Files.step]
  by_cases upwards : part = above
  · rw [if_pos upwards]
    intro other otherMem
    exact isPlace other (place.dropLast_prefix.subset otherMem)
  · rw [if_neg upwards]
    intro other otherMem
    rcases List.mem_append.mp otherMem with before | last
    · exact isPlace other before
    · rw [List.mem_singleton.mp last]
      exact named upwards

theorem IsPlace.foldl_step (isPlace : IsPlace place) {path : FilePath}
    (named : ∀ part ∈ path, part ≠ above → IsName part) : IsPlace (path.foldl Files.step place) := by
  induction path generalizing place with
  | nil => exact isPlace
  | cons part rest ih =>
      exact ih (isPlace.step (named part List.mem_cons_self)) fun other otherMem =>
        named other (List.mem_cons_of_mem _ otherMem)

/-- What a path means is a place, if the working directory is one. -/
theorem isPlace_placeOf (working : IsPlace files.workingDirectory) (path : List UInt8) :
    IsPlace (files.placeOf path) := by
  apply IsPlace.foldl_step
  · exact fun _ => nofun
  · intro part partMem notAbove
    rw [absolute] at partMem
    split at partMem
    · exact isName_of_mem_partsOf partMem notAbove
    · rcases List.mem_append.mp partMem with before | behind
      · exact working part before
      · exact isName_of_mem_partsOf behind notAbove

/-- A place that is written out is absolute, and its names are those of the place. -/
theorem absolute_written (isPlace : IsPlace place) (nonempty : place ≠ []) :
    files.absolute (written place) = place := by
  have kept : (place.filter fun part => !part.isEmpty && part != here) = place := by
    rw [List.filter_eq_self]
    intro part partMem
    have named := isPlace part partMem
    simp [named.nonempty, named.notHere]
  have parts : partsAt slash (joinAt slash place) = place :=
    partsAt_joinAt nonempty fun part partMem => (isPlace part partMem).noSlash
  have fromRoot : (written place).head? = some slash := rfl
  rw [absolute, if_pos fromRoot, partsOf, written, partsAt_cons, cut_separator, parts,
    List.filter_cons_of_neg (by simp), kept]

theorem pathLength_append (first second : FilePath) :
    pathLength (first ++ second) = pathLength first + pathLength second := by
  induction first with
  | nil => simp [pathLength]
  | cons part rest ih =>
      simp only [pathLength, List.cons_append, List.foldr_cons] at ih ⊢
      omega

end FederatedLogin.Files

import FederatedLogin.HostName.Label
import FederatedLogin.Proofs.Text.Case
import FederatedLogin.Proofs.Text.Separated

/-!
# The case of host names

Whether a host name is in order does not depend on the case of its letters.
-/

namespace FederatedLogin.HostName

open FederatedLogin.Text

theorem toLower_eq_dot_iff (value : Char) : value.toLower = '.' ↔ value = '.' := by
  constructor
  · intro isDot
    rcases toLower_eq_or_isLower value with same | lower
    · exact same.symm.trans isDot
    · rw [isDot] at lower
      cases lower
  · rintro rfl
    rfl

theorem labelFault?_map_toLower (label : List Char) :
    labelFault? (label.map Char.toLower) = labelFault? label := by
  have meaning_eq : meaning? (label.map Char.toLower) = meaning? label := by
    simp only [meaning?, map_toLower_map_toLower]
  rw [labelFault?, labelFault?, meaning_eq]

theorem labels_map_toLower (name : List Char) :
    labels (name.map Char.toLower) = (labels name).map (List.map Char.toLower) := by
  simp only [labels, partsAt_map toLower_eq_dot_iff, List.getLast?_map]
  by_cases rooted : (partsAt '.' name).getLast? = some []
  · rw [if_pos rooted, rooted, if_pos (by rfl), List.map_dropLast]
  · have unrooted : ¬ (partsAt '.' name).getLast?.map (List.map Char.toLower) = some [] := by
      simpa using rooted
    rw [if_neg rooted, if_neg unrooted]

theorem check_map_toLower (name : List Char) : check (name.map Char.toLower) = check name := by
  have sameFault : labelFault? ∘ List.map Char.toLower = labelFault? :=
    funext labelFault?_map_toLower
  rw [check, check, List.length_map, labels_map_toLower, List.findSome?_map, sameFault]

end FederatedLogin.HostName

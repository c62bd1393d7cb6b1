/-!
# Sets of code points as ranges

A property of characters is written as the ascending list of the inclusive ranges in which it
holds.
-/

namespace FederatedLogin.Text

/-- An inclusive range of positions in the code space. -/
abbrev Range := Nat × Nat

/-- Whether a position lies in one of the ascending ranges. -/
def inRanges (position : Nat) : List Range → Bool
  | [] => false
  | (first, last) :: rest =>
      if position < first then false
      else if position ≤ last then true
      else inRanges position rest

end FederatedLogin.Text

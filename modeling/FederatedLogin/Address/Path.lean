import FederatedLogin.Text.Separated

/-!
# Dot segments of a path

A path is a sequence of segments between slashes.  The segment `.` names the place itself and is
dropped, and `..` takes back the segment before it, but never the root.
-/

namespace FederatedLogin.Address.Path

open FederatedLogin.Text

/-- Follows one segment; the segments kept so far stand last first. -/
def follow (kept : List (List Char)) (segment : List Char) : List (List Char) :=
  if segment = ['.'] then kept
  else if segment = ['.', '.'] then
    if kept = [] ∨ kept = [[]] then kept else kept.drop 1
  else segment :: kept

/-- A path without dot segments. -/
def normalize (path : List Char) : List Char :=
  joinAt '/' ((partsAt '/' path).foldl follow []).reverse

/-- What has no dot segments is kept as it is. -/
theorem foldl_follow_of_noDots (kept : List (List Char)) {segments : List (List Char)}
    (noDots : ∀ segment ∈ segments, segment ≠ ['.'] ∧ segment ≠ ['.', '.']) :
    segments.foldl follow kept = segments.reverse ++ kept := by
  induction segments generalizing kept with
  | nil => rfl
  | cons segment rest ih =>
      have here := noDots segment (by simp)
      simp only [List.foldl_cons]
      rw [ih _ fun other otherMem => noDots other (by simp [otherMem])]
      simp [follow, here.1, here.2]

example : normalize "/a/b/../../../c".toList = "/c".toList := by decide
example : normalize "/./..".toList = [] := by decide
example : normalize "/a/../".toList = "/".toList := by decide

end FederatedLogin.Address.Path

/-!
# Separated text

A text is cut at every occurrence of a separator, and the parts are put together again with the
separator between them.  There is always at least one part, and nothing is lost:
`joinAt_partsAt`.  A text is a list here, of characters or of bytes.
-/

namespace FederatedLogin.Text

variable {α : Type} [DecidableEq α]

/-- Puts a value in front of parts: a separator opens a new part. -/
def cut (separator value : α) (parts : List (List α)) : List (List α) :=
  if value = separator then [] :: parts
  else
    match parts with
    | [] => [[value]]
    | first :: others => (value :: first) :: others

/-- The parts of a text between the occurrences of a separator. -/
def partsAt (separator : α) (source : List α) : List (List α) :=
  source.foldr (cut separator) [[]]

/-- The text with these parts. -/
def joinAt (separator : α) : List (List α) → List α
  | [] => []
  | [part] => part
  | part :: rest => part ++ separator :: joinAt separator rest

/-- What stands before and after the first occurrence of a value. -/
def splitFirst? (mark : α) (source : List α) : Option (List α × List α) :=
  let before := source.takeWhile (· != mark)
  match source.drop before.length with
  | [] => none
  | _ :: after => some (before, after)

/-- What stands before and after the last occurrence of a value. -/
def splitLast? (mark : α) (source : List α) : Option (List α × List α) :=
  let after := source.reverse.takeWhile (· != mark)
  if after.length < source.length then
    some (source.take (source.length - after.length - 1), after.reverse)
  else
    none

@[simp]
theorem partsAt_nil (separator : α) : partsAt separator [] = [[]] :=
  rfl

theorem cut_ne_nil (separator value : α) (parts : List (List α)) :
    cut separator value parts ≠ [] := by
  simp only [cut]
  split
  · simp
  · split <;> simp

theorem partsAt_ne_nil (separator : α) (source : List α) : partsAt separator source ≠ [] := by
  cases source with
  | nil => simp
  | cons value rest => exact cut_ne_nil separator value _

/-- Nothing of a text is lost in its parts. -/
theorem joinAt_partsAt (separator : α) (source : List α) :
    joinAt separator (partsAt separator source) = source := by
  induction source with
  | nil => rfl
  | cons value rest ih =>
      have unfolded : partsAt separator (value :: rest) =
          cut separator value (partsAt separator rest) := rfl
      rw [unfolded]
      cases found : partsAt separator rest with
      | nil => exact absurd found (partsAt_ne_nil separator rest)
      | cons first others =>
          rw [found] at ih
          by_cases isSeparator : value = separator
          · simp [cut, isSeparator, joinAt, ih]
          · cases others <;> simp_all [cut, joinAt]

end FederatedLogin.Text

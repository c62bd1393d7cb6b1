import Mathlib

/-!
# Letters and their case

Letters and digits are characters of ASCII.  Characters put in lower case stay so, and only letters
in upper case are changed.
-/

namespace FederatedLogin.Text

/-- Letters and digits stand between the digit zero and the last letter in lower case. -/
theorem toNat_of_isAlphanum {value : Char} (alphanum : value.isAlphanum) :
    0x30 ≤ value.toNat ∧ value.toNat ≤ 0x7A := by
  simp only [Char.isAlphanum, Char.isAlpha, Char.isUpper, Char.isLower, Char.isDigit,
    Bool.or_eq_true, Bool.and_eq_true, decide_eq_true_eq, UInt32.le_iff_toNat_le, ge_iff_le]
    at alphanum
  change (65 ≤ value.toNat ∧ value.toNat ≤ 90 ∨ 97 ≤ value.toNat ∧ value.toNat ≤ 122) ∨
    48 ≤ value.toNat ∧ value.toNat ≤ 57 at alphanum
  omega

/-- Letters stand between the first one in upper case and the last one in lower case. -/
theorem toNat_of_isAlpha {value : Char} (letter : value.isAlpha) :
    0x41 ≤ value.toNat ∧ value.toNat ≤ 0x7A := by
  simp only [Char.isAlpha, Char.isUpper, Char.isLower, Bool.or_eq_true, Bool.and_eq_true,
    decide_eq_true_eq, UInt32.le_iff_toNat_le, ge_iff_le] at letter
  change 65 ≤ value.toNat ∧ value.toNat ≤ 90 ∨ 97 ≤ value.toNat ∧ value.toNat ≤ 122 at letter
  omega

/-- A character in lower case is another one only if it was a letter in upper case. -/
theorem toLower_eq_or_isLower (value : Char) :
    value.toLower = value ∨ value.toLower.isLower = true := by
  by_cases upper : value.isUpper
  · apply Or.inr
    rw [Char.isLower_toLower_eq_isAlpha, Char.isAlpha, upper, Bool.true_or]
  · exact .inl (Char.toLower_eq_of_not_isUpper upper)

/-- What holds no letters in upper case stays as it is, and only that. -/
theorem map_toLower_eq_self_iff {source : List Char} :
    source.map Char.toLower = source ↔ ∀ value ∈ source, value.isUpper = false := by
  have sameAsKept : source.map Char.toLower = source ↔ ∀ value ∈ source, value.toLower = value := by
    conv_lhs => rhs; rw [← List.map_id source]
    exact List.map_inj_left
  rw [sameAsKept]
  constructor
  · intro kept value valueMem
    rw [← kept value valueMem]
    exact Char.isUpper_toLower_eq_false value
  · intro noUpper value valueMem
    apply Char.toLower_eq_of_not_isUpper
    rw [noUpper value valueMem]
    exact Bool.false_ne_true

/-- What holds no letters stays as it is. -/
theorem map_toLower_eq_self {source : List Char}
    (noLetters : ∀ value ∈ source, value.isAlpha = false) : source.map Char.toLower = source := by
  apply map_toLower_eq_self_iff.mpr
  intro value valueMem
  have noLetter := noLetters value valueMem
  rw [Char.isAlpha, Bool.or_eq_false_iff] at noLetter
  exact noLetter.1

theorem map_toLower_map_toLower (source : List Char) :
    (source.map Char.toLower).map Char.toLower = source.map Char.toLower := by
  rw [List.map_map]
  exact List.map_congr_left fun value _ => Char.toLower_toLower_eq_toLower value

/-- A text starts alike after a change that neither adds nor takes away what it starts with. -/
theorem isPrefixOf_map {change : Char → Char} {start source : List Char}
    (kept : ∀ value ∈ source, ∀ mark ∈ start, change value = mark ↔ value = mark) :
    start.isPrefixOf (source.map change) = start.isPrefixOf source := by
  induction start generalizing source with
  | nil => rfl
  | cons mark rest ih =>
      cases source with
      | nil => rfl
      | cons value others =>
          have same : (mark == change value) = (mark == value) := by
            rw [Bool.eq_iff_iff, beq_iff_eq, beq_iff_eq, eq_comm,
              kept value (List.mem_cons_self ..) mark (List.mem_cons_self ..), eq_comm]
          rw [List.map_cons, List.isPrefixOf, List.isPrefixOf, same, ih]
          intro other otherMem letter letterMem
          exact kept other (List.mem_cons_of_mem _ otherMem) letter
            (List.mem_cons_of_mem _ letterMem)

end FederatedLogin.Text

import FederatedLogin.Number.Written
import FederatedLogin.Proofs.Text.Blank
import Mathlib.Data.Nat.Digits.Defs

/-!
# Integers written and read again

An integer that could be read has few enough digits to be written out and read again.
-/

namespace FederatedLogin.Number.Written

open FederatedLogin.Text

/-! ## Digits -/

theorem isAsciiDigit_iff {value : Char} : isAsciiDigit value = true ↔ value.isDigit = true := by
  simp only [isAsciiDigit, Char.isDigit, Bool.and_eq_true, decide_eq_true_eq]
  exact Iff.rfl

theorem naturalOfDigits_eq (digits : List Char) :
    naturalOfDigits digits = Nat.ofDigitChars 10 digits 0 := by
  rw [Nat.ofDigitChars_eq_foldl]
  simp only [naturalOfDigits, asciiDigitValue, Nat.mul_comm]

/-- Digits write less than the power of ten that has one digit more. -/
theorem naturalOfDigits_lt {digits : List Char} (allDigits : ∀ digit ∈ digits, digit.isDigit) :
    naturalOfDigits digits < 10 ^ digits.length := by
  rw [naturalOfDigits_eq]
  induction digits with
  | nil => simp
  | cons digit rest ih =>
      have restBound := ih fun other otherMem => allDigits other (List.mem_cons_of_mem _ otherMem)
      have digitBound : digit.toNat - '0'.toNat ≤ 9 := by
        have isDigit := allDigits digit (List.mem_cons_self ..)
        simp only [Char.isDigit, Bool.and_eq_true, decide_eq_true_eq] at isDigit
        have upper : digit.toNat ≤ '9'.toNat := isDigit.2
        have nine : '9'.toNat = 57 := rfl
        have zero : '0'.toNat = 48 := rfl
        omega
      rw [Nat.ofDigitChars_cons, Nat.ofDigitChars_eq_ofDigitChars_zero, List.length_cons,
        Nat.pow_succ]
      have scaled := Nat.mul_le_mul_left (10 ^ rest.length) digitBound
      rw [Nat.mul_zero, Nat.zero_add]
      omega

/-! ## Plain notation -/

/-- A digit or a minus sign. -/
def IsPlain (value : Char) : Prop :=
  value.isDigit ∨ value = '-'

theorem IsPlain.position {value : Char} (plain : IsPlain value) :
    0x30 ≤ value.toNat ∧ value.toNat ≤ 0x39 ∨ value.toNat = 0x2D := by
  rcases plain with isDigit | rfl
  · simp only [Char.isDigit, Bool.and_eq_true, decide_eq_true_eq] at isDigit
    exact .inl isDigit
  · exact .inr rfl

theorem IsPlain.not_blank {value : Char} (plain : IsPlain value) : isNumberBlank value = false := by
  have position := plain.position
  simp only [isNumberBlank, Bool.or_eq_false_iff, Bool.and_eq_false_iff, decide_eq_false_iff_not,
    beq_eq_false_iff_ne]
  omega

theorem IsPlain.asciiDigit_eq {value : Char} (plain : IsPlain value) : asciiDigit value = value := by
  rcases plain with isDigit | rfl
  · have position := IsPlain.position (.inl isDigit)
    have atHead : digitValue? value = some (value.toNat - 0x30) := by
      have inAscii : (decide (0x30 ≤ value.toNat) && decide (value.toNat ≤ 0x30 + 9)) = true := by
        simp only [Bool.and_eq_true, decide_eq_true_eq]
        simp only [Char.isDigit, Bool.and_eq_true, decide_eq_true_eq] at isDigit
        exact isDigit
      rw [digitValue?, zeroPositions, List.find?_cons, inAscii]
      rfl
    have lower : 0x30 ≤ value.toNat := by
      simp only [Char.isDigit, Bool.and_eq_true, decide_eq_true_eq] at isDigit
      exact isDigit.1
    have zero : '0'.toNat = 0x30 := rfl
    rw [asciiDigit, atHead]
    simp only [zero]
    rw [Nat.add_sub_cancel' lower, Char.ofNat_toNat]
  · decide

theorem joined?_of_isPlain {source : List Char} (plain : ∀ value ∈ source, IsPlain value)
    (afterDigit : Bool) : joined? afterDigit source = some source := by
  induction source generalizing afterDigit with
  | nil => rfl
  | cons value rest ih =>
      have notMark : value ≠ '_' := by
        rintro rfl
        have position := (plain '_' (List.mem_cons_self ..)).position
        revert position
        decide
      have restJoined := ih (fun other otherMem => plain other (List.mem_cons_of_mem _ otherMem))
        (isAsciiDigit value)
      rw [joined?, if_neg notMark, restJoined]
      rfl

/-- What has neither blanks nor marks in it stays as it is. -/
theorem plain?_of_isPlain {source : String} (plain : ∀ value ∈ source.toList, IsPlain value) :
    plain? source = some source.toList := by
  have unblanked : trimWhile isNumberBlank source.toList = source.toList :=
    trimWhile_eq_self fun value valueMem => (plain value valueMem).not_blank
  have unchanged : source.toList.map asciiDigit = source.toList := by
    rw [List.map_congr_left (fun value valueMem => (plain value valueMem).asciiDigit_eq),
      List.map_id']
  rw [plain?, unblanked, unchanged, joined?_of_isPlain plain]

/-! ## Integers -/

/-- An integer that was read has no more digits than may be read. -/
theorem natAbs_lt_of_integer? {source : String} {number : Int}
    (read : integer? source = some number) : number.natAbs < 10 ^ maxDigits := by
  rw [integer?, Option.bind_eq_bind, Option.bind_eq_some_iff] at read
  obtain ⟨plain, _, read⟩ := read
  cases signed : splitSign plain with
  | mk negative digits =>
      simp only [signed] at read
      split at read
      · cases read
      · next inOrder =>
          simp only [Bool.or_eq_true, not_or, Bool.not_eq_true', Bool.not_eq_false,
            List.all_eq_true, decide_eq_true_eq, Nat.not_lt] at inOrder
          obtain ⟨⟨_, allDigits⟩, short⟩ := inOrder
          have bound : naturalOfDigits digits < 10 ^ maxDigits :=
            Nat.lt_of_lt_of_le
              (naturalOfDigits_lt fun digit digitMem =>
                isAsciiDigit_iff.mp (allDigits digit digitMem))
              (Nat.pow_le_pow_right (by decide) short)
          cases read
          cases negative
          · simpa using bound
          · simpa using bound

theorem toList_toString_ofNat (magnitude : Nat) :
    (toString (Int.ofNat magnitude)).toList = Nat.toDigits 10 magnitude :=
  Nat.toList_repr

theorem toList_toString_negSucc (magnitude : Nat) :
    (toString (Int.negSucc magnitude)).toList = '-' :: Nat.toDigits 10 (magnitude + 1) := by
  have written : toString (Int.negSucc magnitude) = "-" ++ (magnitude + 1).repr := rfl
  rw [written, String.toList_append, Nat.toList_repr]
  rfl

theorem isPlain_of_mem_toDigits {magnitude : Nat} {value : Char}
    (valueMem : value ∈ Nat.toDigits 10 magnitude) : IsPlain value :=
  .inl (Nat.isDigit_of_mem_toDigits (by decide) (by decide) valueMem)

theorem isPlain_of_mem_toString {number : Int} {value : Char}
    (valueMem : value ∈ (toString number).toList) : IsPlain value := by
  cases number with
  | ofNat magnitude =>
      rw [toList_toString_ofNat] at valueMem
      exact isPlain_of_mem_toDigits valueMem
  | negSucc magnitude =>
      rw [toList_toString_negSucc] at valueMem
      rcases List.mem_cons.mp valueMem with rfl | digitMem
      · exact .inr rfl
      · exact isPlain_of_mem_toDigits digitMem

/-- Digits that write a number are in order. -/
theorem toDigits_inOrder (magnitude : Nat) (short : magnitude < 10 ^ maxDigits) :
    ((Nat.toDigits 10 magnitude).isEmpty || !(Nat.toDigits 10 magnitude).all isAsciiDigit ||
      decide ((Nat.toDigits 10 magnitude).length > maxDigits)) = false := by
  have allDigits : (Nat.toDigits 10 magnitude).all isAsciiDigit = true := by
    rw [List.all_eq_true]
    intro digit digitMem
    exact isAsciiDigit_iff.mpr (Nat.isDigit_of_mem_toDigits (by decide) (by decide) digitMem)
  have length_le : (Nat.toDigits 10 magnitude).length ≤ maxDigits :=
    (Nat.length_toDigits_le_iff (by decide) (by decide)).mpr short
  simp [allDigits, length_le, Nat.toDigits_ne_nil]

theorem splitSign_toDigits (magnitude : Nat) :
    splitSign (Nat.toDigits 10 magnitude) = (false, Nat.toDigits 10 magnitude) := by
  cases written : Nat.toDigits 10 magnitude with
  | nil => rfl
  | cons first rest =>
      have isDigit : first.isDigit :=
        Nat.isDigit_of_mem_toDigits (by decide) (by decide)
          (written ▸ List.mem_cons_self .. : first ∈ Nat.toDigits 10 magnitude)
      rw [splitSign.eq_def]
      split
      · next same =>
          cases same
          cases isDigit
      · next same =>
          cases same
          cases isDigit
      · rfl

/-- An integer with few enough digits is read back as it is written. -/
theorem integer?_toString {number : Int} (short : number.natAbs < 10 ^ maxDigits) :
    integer? (toString number) = some number := by
  have plain : plain? (toString number) = some (toString number).toList :=
    plain?_of_isPlain fun value valueMem => isPlain_of_mem_toString valueMem
  rw [integer?, plain]
  cases number with
  | ofNat magnitude =>
      have inOrder := toDigits_inOrder magnitude short
      simp only [Option.bind_eq_bind, Option.bind_some, toList_toString_ofNat, splitSign_toDigits,
        inOrder, naturalOfDigits_eq, Nat.ofDigitChars_ten_toDigits, Bool.false_eq_true, if_false]
      rfl
  | negSucc magnitude =>
      have inOrder := toDigits_inOrder (magnitude + 1) short
      simp only [Option.bind_eq_bind, Option.bind_some, toList_toString_negSucc, splitSign,
        inOrder, naturalOfDigits_eq, Nat.ofDigitChars_ten_toDigits, Bool.false_eq_true, if_false,
        if_true]
      rfl

end FederatedLogin.Number.Written

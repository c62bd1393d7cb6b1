import FederatedLogin.Text.Base64Url
import Mathlib.Data.Nat.Bitwise

/-!
# The bits of base64url

Every letter holds six bits.  The letters for a string of bytes hold the bits of the bytes, eight
for each and in order, and then zeros up to the end of the last letter, fewer than a letter holds.
So the bytes are read again from the letters: eight bits are a byte, and what is left at the end is
none.

A group of bytes and its letters are two ways to cut one number, the number whose bits are those of
the bytes and of the filling.
-/

namespace FederatedLogin.Text.Base64Url

/-- The letters, in the order of the numbers that they are for. -/
def alphabet : List Char :=
  "ABCDEFGHIJKLMNOPQRSTUVWXYZabcdefghijklmnopqrstuvwxyz0123456789-_".toList

theorem length_alphabet : alphabet.length = 64 := by decide +kernel

/-- The lowest bits of a number, as many as are asked for, the highest of them first. -/
def bits : Nat → Nat → List Bool
  | 0, _ => []
  | width + 1, number => number.testBit width :: bits width number

/-- The number with some bits, the highest of which is the first. -/
def ofBits (source : List Bool) : Nat :=
  source.foldl (fun number bit => 2 * number + bit.toNat) 0

/-- The bits that letters hold. -/
def heldBits (source : List Char) : List Bool :=
  source.flatMap fun value => bits 6 (alphabet.idxOf value)

/-- The bytes that bits are cut into; at the end, what is too short for a byte is left out. -/
def bytesOf : List Bool → List UInt8
  | b₇ :: b₆ :: b₅ :: b₄ :: b₃ :: b₂ :: b₁ :: b₀ :: rest =>
      UInt8.ofNat (ofBits [b₇, b₆, b₅, b₄, b₃, b₂, b₁, b₀]) :: bytesOf rest
  | _ => []

/-- The bytes that letters are read as. -/
def decode (source : List Char) : List UInt8 :=
  bytesOf (heldBits source)

/-! ## Bits of numbers -/

variable {width more high low number : Nat}

/-- A number is cut into its upper and its lower bits. -/
theorem bits_add (width more number : Nat) :
    bits (width + more) number = bits width (number / 2 ^ more) ++ bits more number := by
  induction width with
  | zero => rw [Nat.zero_add, bits, List.nil_append]
  | succ width ih =>
      rw [Nat.add_right_comm, bits, bits, ih, Nat.testBit_div_two_pow, List.cons_append]

/-- The lowest bits of a number are those of its remainder. -/
theorem bits_mod_two_pow (enough : width ≤ more) :
    bits width (number % 2 ^ more) = bits width number := by
  induction width with
  | zero => rfl
  | succ width ih =>
      rw [bits, bits, ih (Nat.le_of_succ_le enough), Nat.testBit_mod_two_pow,
        decide_eq_true (Nat.lt_of_succ_le enough), Bool.true_and]

/-- Two numbers are put together bit by bit. -/
theorem bits_join (small : low < 2 ^ more) :
    bits (width + more) (high * 2 ^ more + low) = bits width high ++ bits more low := by
  have upper : (high * 2 ^ more + low) / 2 ^ more = high := by
    rw [Nat.add_comm, Nat.add_mul_div_right _ _ (Nat.two_pow_pos more), Nat.div_eq_of_lt small,
      Nat.zero_add]
  have lower : (high * 2 ^ more + low) % 2 ^ more = low := by
    rw [Nat.add_comm, Nat.add_mul_mod_self_right, Nat.mod_eq_of_lt small]
  rw [bits_add, upper, ← bits_mod_two_pow (Nat.le_refl more), lower]

theorem bits_zero (width : Nat) : bits width 0 = List.replicate width false := by
  induction width with
  | zero => rfl
  | succ width ih => rw [bits, ih, Nat.zero_testBit, List.replicate_succ]

/-- A number that is moved up leaves zeros behind it. -/
theorem bits_mul_two_pow (width more number : Nat) :
    bits (width + more) (number * 2 ^ more) = bits width number ++ List.replicate more false := by
  rw [← bits_zero, ← bits_join (Nat.two_pow_pos more), Nat.add_zero]

theorem ofBits_append_singleton (source : List Bool) (bit : Bool) :
    ofBits (source ++ [bit]) = 2 * ofBits source + bit.toNat := by
  rw [ofBits, List.foldl_append]
  rfl

theorem ofBits_bits (width number : Nat) : ofBits (bits width number) = number % 2 ^ width := by
  induction width generalizing number with
  | zero => rw [Nat.pow_zero, Nat.mod_one]; rfl
  | succ width ih =>
      have cut : bits (width + 1) number = bits width (number / 2) ++ [number.testBit 0] :=
        bits_add width 1 number
      rw [cut, ofBits_append_singleton, ih, Nat.toNat_testBit, Nat.pow_zero, Nat.div_one,
        Nat.pow_succ', Nat.mod_mul, Nat.add_comm]

/-! ## Bytes of bits -/

theorem bytesOf_bits_append (byte : UInt8) (rest : List Bool) :
    bytesOf (bits 8 byte.toNat ++ rest) = byte :: bytesOf rest := by
  have whole : UInt8.ofNat (ofBits (bits 8 byte.toNat)) = byte := by
    rw [ofBits_bits, Nat.mod_eq_of_lt byte.toNat_lt, UInt8.ofNat_toNat]
  exact congrArg (· :: bytesOf rest) whole

theorem bytesOf_of_short {source : List Bool} (short : source.length < 8) :
    bytesOf source = [] := by
  rw [bytesOf]
  rintro b₇ b₆ b₅ b₄ b₃ b₂ b₁ b₀ rest rfl
  simp only [List.length_cons] at short
  omega

/-- Bytes are cut out of their bits, whatever too short for a byte comes after them. -/
theorem bytesOf_flatMap_bits_append (bytes : List UInt8) {rest : List Bool}
    (short : rest.length < 8) :
    bytesOf ((bytes.flatMap fun byte => bits 8 byte.toNat) ++ rest) = bytes := by
  induction bytes with
  | nil => exact bytesOf_of_short short
  | cons byte bytes ih => rw [List.flatMap_cons, List.append_assoc, bytesOf_bits_append, ih]

/-! ## Bits of letters -/

theorem at_not_mem_alphabet : '@' ∉ alphabet := by decide +kernel

theorem idxOf_letter {index : Nat} (small : index < 64) :
    alphabet.idxOf (letter index) = index := by
  have each : ∀ index < 64, alphabet.idxOf (letter index) = index := by decide +kernel
  exact each index small

theorem letter_mem_alphabet {index : Nat} (small : index < 64) : letter index ∈ alphabet := by
  rw [← List.idxOf_lt_length_iff, idxOf_letter small, length_alphabet]
  exact small

theorem heldBits_append (source rest : List Char) :
    heldBits (source ++ rest) = heldBits source ++ heldBits rest :=
  List.flatMap_append

theorem heldBits_letter {index : Nat} (small : index < 64) :
    heldBits [letter index] = bits 6 index := by
  rw [heldBits, List.flatMap_singleton, idxOf_letter small]

/-- The letters for the lowest digits of a number in base 64. -/
def lettersOf : Nat → Nat → List Char
  | 0, _ => []
  | count + 1, number => lettersOf count (number / 64) ++ [letter (number % 64)]

theorem heldBits_lettersOf (count number : Nat) :
    heldBits (lettersOf count number) = bits (6 * count) number := by
  induction count generalizing number with
  | zero => rfl
  | succ count ih =>
      have cut : bits (6 * count + 6) number = bits (6 * count) (number / 64) ++ bits 6 number :=
        bits_add (6 * count) 6 number
      have lowest : bits 6 (number % 64) = bits 6 number := bits_mod_two_pow (Nat.le_refl 6)
      rw [lettersOf, heldBits_append, ih, heldBits_letter (Nat.mod_lt number (by decide)), lowest,
        Nat.mul_succ, cut]

theorem lettersOf_subset_alphabet (count number : Nat) : lettersOf count number ⊆ alphabet := by
  induction count generalizing number with
  | zero => exact List.nil_subset alphabet
  | succ count ih =>
      have lowest := letter_mem_alphabet (Nat.mod_lt number (by decide : 64 > 0))
      have last := List.cons_subset.mpr ⟨lowest, List.nil_subset alphabet⟩
      exact List.append_subset.mpr ⟨ih (number / 64), last⟩

theorem lettersOf_two (small : number < 4096) :
    lettersOf 2 number = [letter (number / 64), letter (number % 64)] := by
  have top : number / 64 % 64 = number / 64 := Nat.mod_eq_of_lt (by omega)
  rw [lettersOf, lettersOf, lettersOf, top]
  rfl

theorem lettersOf_three (small : number < 262144) : lettersOf 3 number =
    [letter (number / 4096), letter (number / 64 % 64), letter (number % 64)] := by
  have top : number / 64 / 64 = number / 4096 := Nat.div_div_eq_div_mul number 64 64
  rw [lettersOf, lettersOf_two (by omega), top]
  rfl

theorem lettersOf_four (small : number < 16777216) : lettersOf 4 number =
    [letter (number / 262144), letter (number / 4096 % 64), letter (number / 64 % 64),
      letter (number % 64)] := by
  have top : number / 64 / 4096 = number / 262144 := Nat.div_div_eq_div_mul number 64 4096
  have next : number / 64 / 64 = number / 4096 := Nat.div_div_eq_div_mul number 64 64
  rw [lettersOf, lettersOf_three (by omega), top, next]
  rfl

/-! ## Groups of bytes -/

variable (first second third : UInt8) (rest : List UInt8)

theorem encode_one : encode [first] = lettersOf 2 (first.toNat * 16) := by
  have first_lt : first.toNat < 256 := first.toNat_lt
  rw [lettersOf_two (by omega)]
  rfl

theorem encode_two :
    encode [first, second] = lettersOf 3 ((first.toNat * 256 + second.toNat) * 4) := by
  have first_lt : first.toNat < 256 := first.toNat_lt
  have second_lt : second.toNat < 256 := second.toNat_lt
  rw [lettersOf_three (by omega)]
  rfl

theorem encode_three : encode (first :: second :: third :: rest) =
    lettersOf 4 ((first.toNat * 256 + second.toNat) * 256 + third.toNat) ++ encode rest := by
  have first_lt : first.toNat < 256 := first.toNat_lt
  have second_lt : second.toNat < 256 := second.toNat_lt
  have third_lt : third.toNat < 256 := third.toNat_lt
  rw [lettersOf_four (by omega)]
  rfl

theorem bits_pair : bits 16 (first.toNat * 256 + second.toNat) =
    bits 8 first.toNat ++ bits 8 second.toNat :=
  bits_join second.toNat_lt

/-- The letters for bytes hold the bits of the bytes, and then fewer zeros than a letter holds. -/
theorem heldBits_encode (bytes : List UInt8) : ∃ filling < 6, heldBits (encode bytes) =
    (bytes.flatMap fun byte => bits 8 byte.toNat) ++ List.replicate filling false := by
  induction bytes using encode.induct with
  | case1 => exact ⟨0, by decide, rfl⟩
  | case2 first =>
      have filled : bits 12 (first.toNat * 16) = bits 8 first.toNat ++ List.replicate 4 false :=
        bits_mul_two_pow 8 4 first.toNat
      refine ⟨4, by decide, ?_⟩
      rw [encode_one, heldBits_lettersOf, List.flatMap_singleton]
      exact filled
  | case3 first second =>
      have filled : bits 18 ((first.toNat * 256 + second.toNat) * 4) =
          bits 16 (first.toNat * 256 + second.toNat) ++ List.replicate 2 false :=
        bits_mul_two_pow 16 2 _
      refine ⟨2, by decide, ?_⟩
      rw [encode_two, heldBits_lettersOf, List.flatMap_cons, List.flatMap_singleton, ← bits_pair]
      exact filled
  | case4 first second third rest ih =>
      have joined : bits 24 ((first.toNat * 256 + second.toNat) * 256 + third.toNat) =
          bits 16 (first.toNat * 256 + second.toNat) ++ bits 8 third.toNat :=
        bits_join third.toNat_lt
      obtain ⟨filling, few, rest_eq⟩ := ih
      refine ⟨filling, few, ?_⟩
      rw [encode_three, heldBits_append, heldBits_lettersOf, joined, bits_pair, rest_eq]
      simp only [List.flatMap_cons, List.append_assoc]

/-- The bytes are read again from their letters. -/
theorem decode_encode (bytes : List UInt8) : decode (encode bytes) = bytes := by
  obtain ⟨filling, few, held⟩ := heldBits_encode bytes
  rw [decode, held]
  exact bytesOf_flatMap_bits_append bytes (by rw [List.length_replicate]; omega)

example : decode "AAcOFQ".toList = [0, 7, 14, 21] := by decide +kernel

theorem encode_injective : Function.Injective encode :=
  Function.LeftInverse.injective decode_encode

/-- All letters for bytes are of the alphabet. -/
theorem encode_subset_alphabet (bytes : List UInt8) : encode bytes ⊆ alphabet := by
  induction bytes using encode.induct with
  | case1 => exact List.nil_subset alphabet
  | case2 first =>
      rw [encode_one]
      exact lettersOf_subset_alphabet _ _
  | case3 first second =>
      rw [encode_two]
      exact lettersOf_subset_alphabet _ _
  | case4 first second third rest ih =>
      rw [encode_three]
      exact List.append_subset.mpr ⟨lettersOf_subset_alphabet _ _, ih⟩

end FederatedLogin.Text.Base64Url

import FederatedLogin.Number.Written
import FederatedLogin.Proofs.Text.Case

/-!
# What is no number

Of all binary64 values only the one that is no number is neither at most zero nor above it.  A
decimal is never rounded to it, so a text is read as it exactly if the text names it.
-/

namespace FederatedLogin.Number

open FederatedLogin.Text

/-! ## Values -/

namespace Binary64

open Float.Model (Format UnpackedFloat)
open Float.Model.UnpackedFloat

theorem lt_iff {first second : Float} :
    first < second ↔ first.toModel.unpack.lt second.toModel.unpack = true := by
  change Float.lt first second = true ↔ _
  rw [Float.lt, decide_eq_true_iff]
  exact Iff.rfl

theorem le_iff {first second : Float} :
    first ≤ second ↔ first.toModel.unpack.le second.toModel.unpack = true := by
  change Float.le first second = true ↔ _
  rw [Float.le, decide_eq_true_iff]
  exact Iff.rfl

theorem unpack_zero : (0 : Float).toModel.unpack = .zero .positive :=
  rfl

/-- A value that is not at most zero is positive, unless it is no number. -/
theorem pos_iff_of_not_le_zero {value : Float} (notLe : ¬value ≤ 0) :
    0 < value ↔ value.isNaN = false := by
  rw [le_iff, unpack_zero] at notLe
  rw [lt_iff, unpack_zero, Float.isNaN, Float.Model.isNaN]
  revert notLe
  cases value.toModel.unpack with
  | notANumber => decide
  | infinity sign => cases sign <;> decide
  | zero sign => cases sign <;> decide
  | finite sign significand exponent positive =>
      intro notLe
      cases sign with
      | negative => exact absurd rfl notLe
      | positive => exact iff_of_true rfl rfl

section

variable {format : Format}

/-- What is no number has the topmost exponent and a mantissa. -/
theorem isNaN_unpack_iff {bits : BitVec format.numBits} :
    (unpack format bits).isNaN = true ↔
      unpackExponent bits = -1#_ ∧ unpackMantissa bits ≠ 0#_ := by
  simp only [unpack]
  split
  · next top =>
    split
    · next whole => simp [UnpackedFloat.isNaN, whole]
    · next part => simp [UnpackedFloat.isNaN, top, part]
  · next below =>
    split
    · split <;> simp [UnpackedFloat.isNaN, below]
    · simp [UnpackedFloat.isNaN, below]

theorem ofNat_ne_topmost {exponent : Nat} (below : exponent + 1 < 2 ^ format.exponentBits) :
    BitVec.ofNat format.exponentBits exponent ≠ -1#_ := by
  rw [Ne, BitVec.neg_one_eq_allOnes, ← BitVec.toNat_inj, BitVec.toNat_ofNat, BitVec.toNat_allOnes,
    Nat.mod_eq_of_lt (by omega)]
  omega

/-- Packing makes what is no number of nothing else. -/
theorem isNaN_of_isNaN_unpack_pack {value : UnpackedFloat}
    (isNaN : (unpack format (pack format value)).isNaN = true) : value.isNaN = true := by
  obtain ⟨top, part⟩ := isNaN_unpack_iff.mp isNaN
  have lowest : 0 + 1 < 2 ^ format.exponentBits := Nat.one_lt_two_pow (Nat.ne_of_gt format.he)
  cases value with
  | notANumber => rfl
  | infinity sign => simp [pack, packedInfinity] at part
  | zero sign => simp [pack, packedZero] at part
  | finite sign mantissa exponent positive =>
      exfalso
      rw [pack] at top part
      split at top
      · next beyond => simp [if_pos beyond, packedInfinity] at part
      · next inRange =>
        split at top
        · rw [unpackExponent_packComponents] at top
          exact ofNat_ne_topmost (Nat.lt_of_not_le inRange) top
        · rw [unpackExponent_packComponents] at top
          exact ofNat_ne_topmost lowest top

end

/-- What is no number lies above infinity in its bits. -/
theorem infinityBits_lt_of_isNaN {bits : UInt64} (isNaN : (Float.ofBits bits).isNaN = true) :
    infinityBits < bits.toNat % signBit := by
  have unpacked : (unpack Format.binary64 bits.toBitVec).isNaN = true :=
    isNaN_of_isNaN_unpack_pack isNaN
  obtain ⟨top, part⟩ := isNaN_unpack_iff.mp unpacked
  have exponent : bits.toNat / 2 ^ 52 % 2 ^ 11 = 2 ^ 11 - 1 := by
    have topmost := congrArg BitVec.toNat top
    simpa [unpackExponent, Nat.shiftRight_eq_div_pow] using topmost
  have mantissa : bits.toNat % 2 ^ 52 ≠ 0 := by
    intro whole
    apply part
    apply BitVec.eq_of_toNat_eq
    simpa [unpackMantissa] using whole
  simp only [infinityBits, signBit]
  omega

theorem isNaN_signed {magnitude : Nat} (negative : Bool) (bounded : magnitude ≤ infinityBits) :
    (signed negative magnitude).isNaN = false := by
  rw [Bool.eq_false_iff]
  intro isNaN
  have above := infinityBits_lt_of_isNaN isNaN
  simp only [infinityBits] at bounded
  simp only [UInt64.toNat_ofNat', infinityBits, signBit] at above
  split at above <;> omega

/-! ## Decimals -/

theorem nearest_le_infinityBits (numerator denominator : Nat) :
    nearest numerator denominator ≤ infinityBits := by
  rw [nearest]
  split
  · exact Nat.zero_le _
  · simp only
    split
    · next small => exact Nat.le_trans (Nat.le_of_lt small) (by decide)
    · exact Nat.min_le_right _ _

theorem nearestDecimal_le_infinityBits (digits : Nat) (scale : Int) :
    nearestDecimal digits scale ≤ infinityBits := by
  simp only [nearestDecimal]
  split
  · exact Nat.zero_le _
  · split
    · exact Nat.le_refl _
    · split
      · exact Nat.zero_le _
      · split <;> exact nearest_le_infinityBits _ _

/-- However large or small it is, a decimal is a number. -/
theorem isNaN_ofDecimal (negative : Bool) (digits : Nat) (scale : Int) :
    (ofDecimal negative digits scale).isNaN = false :=
  isNaN_signed negative (nearestDecimal_le_infinityBits digits scale)

end Binary64

/-! ## Texts -/

namespace Written

/-- A text that names what is no number: in letters of either case, perhaps behind a sign, and with
blanks around it. -/
def NamesNoNumber (source : String) : Prop :=
  ∃ sign ∈ [[], ['+'], ['-']], ∃ letters, letters.map Char.toLower = ['n', 'a', 'n'] ∧
    trimWhile isNumberBlank source.toList = sign ++ letters

variable {source : List Char} {value : Char}

/-- What stands in no row of digits is kept. -/
theorem asciiDigit_of_elsewhere
    (elsewhere : ∀ start ∈ zeroPositions, start + 9 < value.toNat ∨ value.toNat < start) :
    asciiDigit value = value := by
  have noDigit : digitValue? value = none := by
    rw [digitValue?, Option.map_eq_none_iff, List.find?_eq_none]
    intro start startMem
    have apart := elsewhere start startMem
    simp only [Bool.and_eq_true, decide_eq_true_eq]
    omega
  rw [asciiDigit, noDigit]

/-- A letter is no digit of any script. -/
theorem asciiDigit_of_isAlpha (letter : value.isAlpha) : asciiDigit value = value := by
  have position := toNat_of_isAlpha letter
  have noLetters : ∀ start ∈ zeroPositions, start + 9 < 0x41 ∨ 0x7A < start := by decide
  apply asciiDigit_of_elsewhere
  intro start startMem
  have apart := noLetters start startMem
  omega

/-- What is read as something else than a digit is none of any script. -/
theorem asciiDigit_eq_self (noDigit : isAsciiDigit (asciiDigit value) = false) :
    asciiDigit value = value := by
  cases isDigit : digitValue? value with
  | none => rw [asciiDigit, isDigit]
  | some digit =>
      exfalso
      obtain ⟨start, found, rfl⟩ := Option.map_eq_some_iff.mp isDigit
      have within : value.toNat - start < 10 := by
        have inRow := List.find?_some found
        simp only [Bool.and_eq_true, decide_eq_true_eq] at inRow
        omega
      have digits : ∀ digit < 10, isAsciiDigit (Char.ofNat ('0'.toNat + digit)) = true := by decide
      rw [asciiDigit, isDigit] at noDigit
      rw [digits _ within] at noDigit
      cases noDigit

theorem joined?_of_noMark (noMark : ∀ value ∈ source, value ≠ '_') (afterDigit : Bool) :
    joined? afterDigit source = some source := by
  induction source generalizing afterDigit with
  | nil => rfl
  | cons first rest ih =>
      rw [joined?, if_neg (noMark first List.mem_cons_self),
        ih fun value valueMem => noMark value (List.mem_cons_of_mem _ valueMem)]
      rfl

/-- Where no digit is left, no mark has been dropped. -/
theorem eq_of_joined?_of_noDigit {plain : List Char} (joined : joined? false source = some plain)
    (noDigit : ∀ value ∈ plain, isAsciiDigit value = false) : source = plain := by
  induction source generalizing plain with
  | nil => exact Option.some.inj joined
  | cons first rest ih =>
      rw [joined?] at joined
      split at joined
      · cases joined
      · obtain ⟨others, restJoined, rfl⟩ := Option.map_eq_some_iff.mp joined
        rw [noDigit first List.mem_cons_self] at restJoined
        rw [ih restJoined fun value valueMem => noDigit value (List.mem_cons_of_mem _ valueMem)]

/-- Where no digit is left, nothing but blanks has been dropped. -/
theorem eq_of_plain?_of_noDigit {written : String} {plain : List Char}
    (isPlain : plain? written = some plain)
    (noDigit : ∀ value ∈ plain, isAsciiDigit value = false) :
    trimWhile isNumberBlank written.toList = plain := by
  have mapped := eq_of_joined?_of_noDigit isPlain noDigit
  rw [← mapped] at noDigit ⊢
  have kept : ∀ value ∈ trimWhile isNumberBlank written.toList, asciiDigit value = value :=
    fun value valueMem => asciiDigit_eq_self (noDigit _ (List.mem_map_of_mem valueMem))
  rw [List.map_congr_left kept, List.map_id']

theorem exists_sign_of_splitSign {negative : Bool} {rest : List Char}
    (split : splitSign source = (negative, rest)) :
    ∃ sign ∈ [[], ['+'], ['-']], source = sign ++ rest := by
  rw [splitSign.eq_def] at split
  split at split
  · cases split
    exact ⟨['+'], by simp, rfl⟩
  · cases split
    exact ⟨['-'], by simp, rfl⟩
  · cases split
    exact ⟨[], by simp, rfl⟩

theorem isNaN_of_decimal? {negative : Bool} {number : Float}
    (read : decimal? negative source = some number) : number.isNaN = false := by
  simp only [decimal?] at read
  split at read
  · cases read
  · obtain ⟨exponent, _, made⟩ := Option.bind_eq_some_iff.mp read
    cases made
    exact Binary64.isNaN_ofDecimal _ _ _

section

variable {sign letters : List Char}

theorem isAlpha_of_name (isName : letters.map Char.toLower = ['n', 'a', 'n']) :
    ∀ value ∈ letters, value.isAlpha := by
  intro value valueMem
  have lowered : value.toLower ∈ ['n', 'a', 'n'] := isName ▸ List.mem_map_of_mem valueMem
  have letter : value.toLower.isAlpha := by
    simp only [List.mem_cons, List.not_mem_nil, or_false] at lowered
    rcases lowered with same | same | same <;> rw [same] <;> rfl
  rwa [Char.isAlpha_toLower_eq_isAlpha] at letter

/-- A sign and the letters of the name are neither digits nor marks. -/
theorem of_mem_signed_name (isSign : sign ∈ [[], ['+'], ['-']])
    (isName : letters.map Char.toLower = ['n', 'a', 'n']) (valueMem : value ∈ sign ++ letters) :
    isAsciiDigit value = false ∧ asciiDigit value = value ∧ value ≠ '_' := by
  rcases List.mem_append.mp valueMem with inSign | inLetters
  · simp only [List.mem_cons, List.not_mem_nil, or_false] at isSign
    rcases isSign with rfl | rfl | rfl
    · cases inSign
    · rw [List.mem_singleton.mp inSign]
      decide
    · rw [List.mem_singleton.mp inSign]
      decide
  · have letter := isAlpha_of_name isName value inLetters
    have position := toNat_of_isAlpha letter
    refine ⟨?_, asciiDigit_of_isAlpha letter, ?_⟩
    · rw [isAsciiDigit, Bool.and_eq_false_iff, decide_eq_false_iff_not, decide_eq_false_iff_not]
      right
      intro isDigit
      have atMost : value.toNat ≤ '9'.toNat := isDigit
      have nine : '9'.toNat = 0x39 := rfl
      omega
    · rintro rfl
      cases letter

theorem splitSign_signed_name (isSign : sign ∈ [[], ['+'], ['-']])
    (isName : letters.map Char.toLower = ['n', 'a', 'n']) :
    (splitSign (sign ++ letters)).2 = letters := by
  simp only [List.mem_cons, List.not_mem_nil, or_false] at isSign
  rcases isSign with rfl | rfl | rfl
  · cases letters with
    | nil => rfl
    | cons first rest =>
        have letter := isAlpha_of_name isName first List.mem_cons_self
        rw [List.nil_append, splitSign.eq_def]
        split
        · next same =>
          cases same
          cases letter
        · next same =>
          cases same
          cases letter
        · rfl
  · rfl
  · rfl

end

theorem real?_of_namesNoNumber {written : String} (names : NamesNoNumber written) :
    ∃ negative, real? written = some (Binary64.signed negative 0x7FF8000000000000) := by
  obtain ⟨sign, isSign, letters, isName, trimmed⟩ := names
  have plain : plain? written = some (sign ++ letters) := by
    have kept : ∀ value ∈ sign ++ letters, asciiDigit value = value :=
      fun value valueMem => (of_mem_signed_name isSign isName valueMem).2.1
    rw [plain?, trimmed, List.map_congr_left kept, List.map_id']
    exact joined?_of_noMark (fun value valueMem => (of_mem_signed_name isSign isName valueMem).2.2) _
  have letters_eq := splitSign_signed_name isSign isName
  refine ⟨(splitSign (sign ++ letters)).1, ?_⟩
  rw [real?, plain]
  simp only [Option.bind_eq_bind, Option.bind_some, letters_eq, isName]
  rfl

/-- A text is read as what is no number exactly if it names that. -/
theorem isNaN_iff_namesNoNumber {written : String} {number : Float}
    (read : real? written = some number) : number.isNaN = true ↔ NamesNoNumber written := by
  constructor
  · intro isNaN
    rw [real?] at read
    obtain ⟨plain, isPlain, read⟩ := Option.bind_eq_some_iff.mp read
    cases signed : splitSign plain with
    | mk negative letters =>
        simp only [signed] at read
        split at read
        · cases read
          rw [Binary64.isNaN_signed negative (Nat.le_refl _)] at isNaN
          cases isNaN
        · split at read
          · next isName =>
            have lowered : letters.map Char.toLower = ['n', 'a', 'n'] := by
              simpa using congrArg String.toList isName
            obtain ⟨sign, isSign, rfl⟩ := exists_sign_of_splitSign signed
            have noDigit : ∀ value ∈ sign ++ letters, isAsciiDigit value = false :=
              fun value valueMem => (of_mem_signed_name isSign lowered valueMem).1
            exact ⟨sign, isSign, letters, lowered, eq_of_plain?_of_noDigit isPlain noDigit⟩
          · rw [isNaN_of_decimal? read] at isNaN
            cases isNaN
  · intro names
    obtain ⟨negative, isRead⟩ := real?_of_namesNoNumber names
    cases read.symm.trans isRead
    cases negative <;> decide +kernel

end Written

end FederatedLogin.Number

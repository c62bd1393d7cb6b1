import FederatedLogin.Proofs.Number.NotANumber
import FederatedLogin.Proofs.Text.Blank

/-!
# Numbers without separators

Whatever is read as a real number is compact: once the blanks around it are dropped, it holds
neither spaces nor the controls below them.  So a separator among U+001C to U+001F, which is blank
elsewhere and is not dropped around a number, makes a text unreadable wherever it stands.
-/

namespace FederatedLogin.Number.Written

open FederatedLogin.Text

/-- Whether a character is one of the four separators, which are blank everywhere but around a
number. -/
def isSeparator (value : Char) : Bool :=
  0x1C ≤ value.toNat && value.toNat ≤ 0x1F

/-- A text without spaces and without the controls below them. -/
def IsCompact (source : List Char) : Prop :=
  ∀ value ∈ source, 0x20 < value.toNat

variable {source rest plain : List Char} {value : Char} {written : String}

theorem isBlank_eq (value : Char) : isBlank value = (isNumberBlank value || isSeparator value) :=
  rfl

theorem isNumberBlank_of_isSeparator (separator : isSeparator value) :
    isNumberBlank value = false := by
  rw [isSeparator, Bool.and_eq_true, decide_eq_true_eq, decide_eq_true_eq] at separator
  simp only [isNumberBlank, Bool.or_eq_false_iff, Bool.and_eq_false_iff, decide_eq_false_iff_not,
    beq_eq_false_iff_ne]
  omega

/-! ## What numbers are made of -/

theorem isCompact_of_digits (digits : ∀ value ∈ source, isAsciiDigit value) : IsCompact source := by
  intro value valueMem
  have isDigit := digits value valueMem
  rw [isAsciiDigit, Bool.and_eq_true, decide_eq_true_eq, decide_eq_true_eq] at isDigit
  have atLeast : 0x30 ≤ value.toNat := isDigit.1
  omega

theorem IsCompact.append (first : IsCompact source) (second : IsCompact rest) :
    IsCompact (source ++ rest) :=
  List.forall_mem_append.mpr ⟨first, second⟩

theorem IsCompact.cons (first : 0x20 < value.toNat) (second : IsCompact rest) :
    IsCompact (value :: rest) :=
  List.forall_mem_cons.mpr ⟨first, second⟩

/-- A sign makes no difference. -/
theorem isCompact_of_splitSign {negative : Bool} (split : splitSign source = (negative, rest))
    (compact : IsCompact rest) : IsCompact source := by
  obtain ⟨sign, isSign, rfl⟩ := exists_sign_of_splitSign split
  simp only [List.mem_cons, List.not_mem_nil, or_false] at isSign
  rcases isSign with rfl | rfl | rfl
  · exact compact
  · exact compact.cons (by decide)
  · exact compact.cons (by decide)

theorem isCompact_of_exponent? {exponent : Int} (read : exponent? source = some exponent) :
    IsCompact source := by
  cases source with
  | nil => exact List.forall_mem_nil _
  | cons mark rest =>
      cases signed : splitSign rest with
      | mk negative digits =>
          simp only [exponent?, signed, Option.ite_none_right_eq_some] at read
          obtain ⟨⟨isMark, _, allDigits⟩, _⟩ := read
          have compact := isCompact_of_digits (List.all_eq_true.mp allDigits)
          refine (isCompact_of_splitSign signed compact).cons ?_
          rcases isMark with rfl | rfl <;> decide

theorem isCompact_of_splitFraction {fraction : List Char}
    (split : splitFraction source = (fraction, rest)) (compact : IsCompact rest) :
    IsCompact source := by
  rw [splitFraction.eq_def] at split
  split at split
  · next others =>
      cases split
      rw [← List.takeWhile_append_dropWhile (p := isAsciiDigit) (l := others)]
      exact ((isCompact_of_digits fun _ => List.mem_takeWhile_imp).append compact).cons (by decide)
  · cases split
    exact compact

theorem isCompact_of_decimal? {negative : Bool} {number : Float}
    (read : decimal? negative source = some number) : IsCompact source := by
  cases split : splitFraction (source.dropWhile isAsciiDigit) with
  | mk fraction rest =>
      simp only [decimal?, split] at read
      split at read
      · cases read
      · obtain ⟨exponent, isExponent, _⟩ := Option.bind_eq_some_iff.mp read
        have compact := isCompact_of_splitFraction split (isCompact_of_exponent? isExponent)
        rw [← List.takeWhile_append_dropWhile (p := isAsciiDigit) (l := source)]
        exact (isCompact_of_digits fun _ => List.mem_takeWhile_imp).append compact

/-- What comes to a name in lower case is a name in letters of either case. -/
theorem isCompact_of_name {name : List Char} (isName : source.map Char.toLower = name)
    (letters : name.all Char.isAlpha) : IsCompact source := by
  intro value valueMem
  have lowered : value.toLower.isAlpha :=
    List.all_eq_true.mp letters _ (isName ▸ List.mem_map_of_mem valueMem)
  rw [Char.isAlpha_toLower_eq_isAlpha] at lowered
  have position := toNat_of_isAlpha lowered
  omega

/-! ## From the plain notation to the text -/

/-- Nothing but marks between digits is left out. -/
theorem mem_of_joined? {afterDigit : Bool} (joined : joined? afterDigit source = some plain)
    (valueMem : value ∈ source) (notMark : value ≠ '_') : value ∈ plain := by
  induction source generalizing afterDigit plain with
  | nil => cases valueMem
  | cons first rest ih =>
      rw [joined?] at joined
      rcases List.mem_cons.mp valueMem with rfl | restMem
      · rw [if_neg notMark] at joined
        obtain ⟨others, _, rfl⟩ := Option.map_eq_some_iff.mp joined
        exact List.mem_cons_self
      · split at joined
        · rw [Option.ite_none_right_eq_some] at joined
          exact ih joined.2 restMem
        · obtain ⟨others, restJoined, rfl⟩ := Option.map_eq_some_iff.mp joined
          exact List.mem_cons_of_mem _ (ih restJoined restMem)

/-- A space or control is kept in the plain notation, so none was there if none is left. -/
theorem isCompact_of_plain? (isPlain : plain? written = some plain) (compact : IsCompact plain) :
    IsCompact (trimWhile isNumberBlank written.toList) := by
  intro value valueMem
  apply Nat.lt_of_not_le
  intro low
  have digitsAbove : ∀ start ∈ zeroPositions, 0x20 < start := by decide
  have kept : asciiDigit value = value := by
    apply asciiDigit_of_elsewhere
    intro start startMem
    have above := digitsAbove start startMem
    omega
  have notMark : value ≠ '_' := by
    rintro rfl
    revert low
    decide
  have inPlain : value ∈ plain :=
    mem_of_joined? isPlain (List.mem_map.mpr ⟨value, valueMem, kept⟩) notMark
  exact Nat.not_le_of_lt (compact value inPlain) low

theorem isCompact_of_real? {number : Float} (read : real? written = some number) :
    IsCompact (trimWhile isNumberBlank written.toList) := by
  rw [real?] at read
  obtain ⟨plain, isPlain, read⟩ := Option.bind_eq_some_iff.mp read
  apply isCompact_of_plain? isPlain
  cases signed : splitSign plain with
  | mk negative magnitude =>
      apply isCompact_of_splitSign signed
      simp only [signed, ← String.toList_inj, String.toList_ofList] at read
      split at read
      · next isName =>
          rcases isName with isName | isName
          · exact isCompact_of_name isName (by decide)
          · exact isCompact_of_name isName (by decide)
      · split at read
        · next isName => exact isCompact_of_name isName (by decide)
        · exact isCompact_of_decimal? read

/-- A text with a separator in it is no number. -/
theorem real?_eq_none_of_separator (valueMem : value ∈ written.toList)
    (separator : isSeparator value) : real? written = none := by
  rw [Option.eq_none_iff_forall_ne_some]
  intro number read
  have above := isCompact_of_real? read value
    (mem_trimWhile_of_stays valueMem (isNumberBlank_of_isSeparator separator))
  rw [isSeparator, Bool.and_eq_true, decide_eq_true_eq, decide_eq_true_eq] at separator
  omega

end FederatedLogin.Number.Written

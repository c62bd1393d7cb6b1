import FederatedLogin.Text.Encoding

/-!
# Text in UTF-8

The bytes of a character take the machine from the place between characters to the position of the
character.  So a text is read again from its bytes, and as a document that starts with an ASCII
character and holds no zero, it is recognised as UTF-8 as well.
-/

namespace FederatedLogin.Text

/-- The position of a character is in the code space, and no surrogate has it. -/
theorem CodePoint.toNat_scalar (value : Char) :
    (value.toNat < 0xD800 ∨ 0xE000 ≤ value.toNat) ∧ value.toNat < 0x110000 := by
  have valid : value.toNat < 0xD800 ∨ 0xDFFF < value.toNat ∧ value.toNat < 0x110000 := value.valid
  omega

/-- Every code point lies in the code space. -/
theorem CodePoint.toNat_lt (point : CodePoint) : point.toNat < 0x110000 := by
  cases point with
  | char value => exact (toNat_scalar value).2
  | surrogate index =>
      have small := index.isLt
      simp only [toNat]
      omega

/-- The code point at the position of a character is that character. -/
theorem CodePoint.ofNat?_toNat (value : Char) : ofNat? value.toNat = some (.char value) := by
  have valid : value.toNat.isValidChar := value.valid
  rw [ofNat?, dif_pos valid]
  rfl

namespace Utf8

theorem toNat_ofNat {value : Nat} (small : value < 0x100) : (UInt8.ofNat value).toNat = value :=
  UInt8.toNat_ofNat_of_lt' small

/-- The byte of a positive number is not zero. -/
theorem ofNat_ne_zero {number : Nat} (positive : 0 < number) (small : number < 0x100) :
    UInt8.ofNat number ≠ 0 := by
  intro isZero
  have toNat_eq := congrArg UInt8.toNat isZero
  rw [toNat_ofNat small] at toNat_eq
  exact Nat.ne_of_gt positive toNat_eq

theorem ofNat_lt_ascii {number : Nat} (ascii : number < 0x80) : UInt8.ofNat number < 0x80 := by
  rw [UInt8.lt_iff_toNat_lt, toNat_ofNat (by omega)]
  exact ascii

variable {surrogates : Bool}

/-- The bytes that take the machine from a state to the end of a character, with the position of the
character. -/
inductive Reads (surrogates : Bool) : Option Pending → List UInt8 → Nat → Prop where
  | finished {state : Option Pending} {byte : UInt8} {position : Nat}
      (advanced : advance surrogates state byte.toNat = .finished position) :
      Reads surrogates state [byte] position
  | inside {state : Option Pending} {byte : UInt8} {rest : List UInt8} {pending : Pending}
      {position : Nat} (advanced : advance surrogates state byte.toNat = .inside pending)
      (reads : Reads surrogates (some pending) rest position) :
      Reads surrogates state (byte :: rest) position

/-! ## The bytes of a character -/

theorem advance_lead_one {position : Nat} (small : position < 0x80) :
    advance surrogates none (UInt8.ofNat position).toNat = .finished position := by
  rw [toNat_ofNat (by omega), advance, lead, if_pos small]

theorem advance_lead_two {bits : Nat} (least : 2 ≤ bits) (small : bits < 0x20) :
    advance surrogates none (UInt8.ofNat (bits + 0xC0)).toNat = .inside ⟨0, 0x80, 0xBF, bits⟩ := by
  rw [toNat_ofNat (by omega), advance, lead, if_neg (by omega), if_neg (by omega),
    if_pos (by omega), Nat.add_sub_cancel]

/-- After the leading byte of a character of three bytes, its next six bits are in range unless the
character could do with fewer bytes or is a surrogate. -/
theorem advance_lead_three (surrogates : Bool) (bits : Nat) {next : Nat} (small : bits < 0x10)
    (nextSmall : next < 0x40) (long : 0x20 ≤ bits * 0x40 + next)
    (scalar : bits = 0xD → next < 0x20) :
    ∃ low high, advance surrogates none (UInt8.ofNat (bits + 0xE0)).toNat =
        .inside ⟨1, low, high, bits⟩ ∧ low ≤ next + 0x80 ∧ next + 0x80 ≤ high := by
  rw [toNat_ofNat (by omega), advance, lead, if_neg (by omega), if_neg (by omega),
    if_neg (by omega)]
  by_cases first : bits = 0
  · subst first
    exact ⟨0xA0, 0xBF, rfl, by omega, by omega⟩
  · rw [if_neg (by omega)]
    by_cases surrogate : bits = 0xD
    · subst surrogate
      refine ⟨0x80, if surrogates then 0xBF else 0x9F, rfl, by omega, ?_⟩
      have nextScalar := scalar rfl
      split <;> omega
    · rw [if_neg (by omega), if_pos (by omega), Nat.add_sub_cancel]
      exact ⟨0x80, 0xBF, rfl, by omega, by omega⟩

/-- After the leading byte of a character of four bytes, its next six bits are in range unless the
character could do with fewer bytes or lies beyond all characters. -/
theorem advance_lead_four (surrogates : Bool) (bits : Nat) {next : Nat} (small : bits ≤ 4)
    (nextSmall : next < 0x40) (long : 0x10 ≤ bits * 0x40 + next)
    (last : bits = 4 → next < 0x10) :
    ∃ low high, advance surrogates none (UInt8.ofNat (bits + 0xF0)).toNat =
        .inside ⟨2, low, high, bits⟩ ∧ low ≤ next + 0x80 ∧ next + 0x80 ≤ high := by
  rw [toNat_ofNat (by omega), advance, lead, if_neg (by omega), if_neg (by omega),
    if_neg (by omega), if_neg (by omega), if_neg (by omega), if_neg (by omega)]
  by_cases first : bits = 0
  · subst first
    exact ⟨0x90, 0xBF, rfl, by omega, by omega⟩
  · rw [if_neg (by omega)]
    by_cases beyond : bits = 4
    · subst beyond
      have nextLast := last rfl
      exact ⟨0x80, 0x8F, rfl, by omega, by omega⟩
    · rw [if_pos (by omega), Nat.add_sub_cancel]
      exact ⟨0x80, 0xBF, rfl, by omega, by omega⟩

/-- The last byte of a character holds its last six bits. -/
theorem Reads.last {low high bits next position : Nat}
    (inRange : low ≤ next + 0x80 ∧ next + 0x80 ≤ high) (small : next < 0x40)
    (whole : bits * 0x40 + next = position) :
    Reads surrogates (some ⟨0, low, high, bits⟩) [UInt8.ofNat (next + 0x80)] position := by
  apply Reads.finished
  rw [toNat_ofNat (by omega), advance, Pending.continue, if_pos inRange, Nat.add_sub_cancel,
    whole]

/-- A byte inside a character that is not its last. -/
theorem Reads.more {more low high bits next position : Nat} {rest : List UInt8}
    (inRange : low ≤ next + 0x80 ∧ next + 0x80 ≤ high) (small : next < 0x40)
    (reads : Reads surrogates (some ⟨more, 0x80, 0xBF, bits * 0x40 + next⟩) rest position) :
    Reads surrogates (some ⟨more + 1, low, high, bits⟩) (UInt8.ofNat (next + 0x80) :: rest)
      position := by
  refine Reads.inside ?_ reads
  rw [toNat_ofNat (by omega), advance, Pending.continue, if_pos inRange, Nat.add_sub_cancel]

/-- The bytes of a character are read as that character. -/
theorem reads_utf8EncodeChar (surrogates : Bool) (value : Char) :
    Reads surrogates none (String.utf8EncodeChar value) value.toNat := by
  obtain ⟨scalar, bound⟩ := CodePoint.toNat_scalar value
  have position_eq : value.val.toNat = value.toNat := rfl
  simp only [String.utf8EncodeChar, position_eq]
  generalize value.toNat = position at scalar bound
  split
  · next small => exact .finished (advance_lead_one (by omega))
  · split
    · next large small =>
      rw [Nat.mod_eq_of_lt (a := position / 64) (by omega)]
      have leads : advance surrogates none (UInt8.ofNat (position / 64 + 192)).toNat =
          .inside ⟨0, 0x80, 0xBF, position / 64⟩ := advance_lead_two (by omega) (by omega)
      refine .inside leads (.last ⟨?_, ?_⟩ ?_ ?_) <;> omega
    · split
      · next large small =>
        rw [Nat.mod_eq_of_lt (a := position / 4096) (by omega)]
        have nextSmall : position / 64 % 64 < 64 := Nat.mod_lt _ (by decide)
        obtain ⟨low, high, leads, inRange⟩ :=
          advance_lead_three surrogates (position / 4096) (by omega) nextSmall (by omega)
            (by omega)
        refine .inside leads (.more inRange nextSmall (.last ⟨?_, ?_⟩ ?_ ?_)) <;> omega
      · next large =>
        rw [Nat.mod_eq_of_lt (a := position / 262144) (by omega)]
        have nextSmall : position / 4096 % 64 < 64 := Nat.mod_lt _ (by decide)
        obtain ⟨low, high, leads, inRange⟩ :=
          advance_lead_four surrogates (position / 262144) (by omega) nextSmall (by omega)
            (by omega)
        refine .inside leads
          (.more inRange nextSmall (.more ⟨?_, ?_⟩ ?_ (.last ⟨?_, ?_⟩ ?_ ?_))) <;> omega

/-! ## The bytes of a text -/

/-- The strict reader takes in a character with its bytes. -/
theorem decodeFrom?_of_reads {state : Option Pending} {bytes : List UInt8} {value : Char}
    (reads : Reads surrogates state bytes value.toNat) (done : List CodePoint)
    (rest : List UInt8) :
    decodeFrom? surrogates state done (bytes ++ rest) =
      decodeFrom? surrogates none (.char value :: done) rest := by
  generalize isPosition : value.toNat = position at reads
  induction reads with
  | finished advanced =>
      subst isPosition
      simp only [List.singleton_append, decodeFrom?, advanced, CodePoint.ofNat?_toNat]
  | inside advanced _ ih =>
      simp only [List.cons_append, decodeFrom?, advanced]
      exact ih isPosition

/-- The code points of the bytes of a text are those of the text. -/
theorem decode?_encode (surrogates : Bool) (source : String) :
    decode? surrogates (encode source) = some (CodePoint.ofText source) := by
  have readOn : ∀ (values : List Char) (done : List CodePoint),
      decodeFrom? surrogates none done (values.flatMap String.utf8EncodeChar) =
        some (done.reverse ++ values.map .char) := by
    intro values
    induction values with
    | nil =>
        intro done
        simp [decodeFrom?]
    | cons value rest ih =>
        intro done
        rw [List.flatMap_cons, decodeFrom?_of_reads (reads_utf8EncodeChar surrogates value), ih]
        simp
  exact readOn source.toList []

/-- The forgiving reader takes in a character with its bytes. -/
theorem replaceFrom_of_reads {state : Option Pending} {bytes : List UInt8} {value : Char}
    (reads : Reads false state bytes value.toNat) (done : List Char) (rest : List UInt8) :
    replaceFrom state done (bytes ++ rest) = replaceFrom none (value :: done) rest := by
  generalize isPosition : value.toNat = position at reads
  induction reads with
  | finished advanced =>
      subst isPosition
      simp only [List.singleton_append, replaceFrom, replaceStep, advanced, Char.ofNat_toNat]
  | inside advanced _ ih =>
      simp only [List.cons_append, replaceFrom, replaceStep, advanced, List.nil_append]
      exact ih isPosition

/-- The bytes of a text are read as that text, whatever follows them, and what follows is read as it
is without them. -/
theorem decodeReplacing_encode_append (source : String) (rest : List UInt8) :
    decodeReplacing (encode source ++ rest) = source ++ decodeReplacing rest := by
  have readOn : ∀ (values done : List Char),
      replaceFrom none done (values.flatMap String.utf8EncodeChar ++ rest) =
        replaceFrom none (values.reverse ++ done) rest := by
    intro values
    induction values with
    | nil => simp
    | cons value others ih =>
        intro done
        rw [List.flatMap_cons, List.append_assoc,
          replaceFrom_of_reads (reads_utf8EncodeChar false value), ih, List.reverse_cons,
          List.append_assoc, List.singleton_append]
  rw [← String.toList_inj, String.toList_append, decodeReplacing, decodeReplacing,
    String.toList_ofList, String.toList_ofList, encode, readOn, replaceFrom_eq, List.append_nil,
    List.reverse_reverse]

theorem decodeReplacing_encode (source : String) : decodeReplacing (encode source) = source := by
  have alone := decodeReplacing_encode_append source []
  rw [List.append_nil] at alone
  rw [alone]
  exact String.append_empty

/-! ## The recognition of the encoding -/

theorem utf8EncodeChar_ascii {value : Char} (ascii : value.toNat < 0x80) :
    String.utf8EncodeChar value = [UInt8.ofNat value.toNat] := by
  have small : value.val.toNat ≤ 127 := Nat.le_of_lt_succ ascii
  simp only [String.utf8EncodeChar, if_pos small]
  rfl

theorem zero_not_mem_utf8EncodeChar {value : Char} (nonzero : value.toNat ≠ 0) :
    0 ∉ String.utf8EncodeChar value := by
  have ne_zero {number : Nat} (positive : 0 < number) (small : number < 0x100) :
      0 ≠ UInt8.ofNat number := (ofNat_ne_zero positive small).symm
  have position_eq : value.val.toNat = value.toNat := rfl
  simp only [String.utf8EncodeChar, position_eq]
  split
  · simp only [List.mem_singleton]
    apply ne_zero <;> omega
  · split
    · simp only [List.mem_cons, List.not_mem_nil, or_false, not_or]
      refine ⟨ne_zero ?_ ?_, ne_zero ?_ ?_⟩ <;> omega
    · split
      · simp only [List.mem_cons, List.not_mem_nil, or_false, not_or]
        refine ⟨ne_zero ?_ ?_, ne_zero ?_ ?_, ne_zero ?_ ?_⟩ <;> omega
      · simp only [List.mem_cons, List.not_mem_nil, or_false, not_or]
        refine ⟨ne_zero ?_ ?_, ne_zero ?_ ?_, ne_zero ?_ ?_, ne_zero ?_ ?_⟩ <;> omega

/-- Of all byte order marks only that of UTF-32 with its highest byte first starts with an ASCII
character, a zero; other bytes that start so are left to their zeros. -/
theorem detect_of_unmarked {first : UInt8} {rest : List UInt8} (ascii : first < 0x80)
    (unmarked : List.isPrefixOf [0x00, 0x00, 0xFE, 0xFF] (first :: rest) = false) :
    Encoding.detect (first :: rest) =
      (Encoding.ofZeroBytes (first :: rest), first :: rest) := by
  have noMark : Encoding.marks.find? (fun mark => mark.1.isPrefixOf (first :: rest)) = none := by
    rw [List.find?_eq_none]
    intro mark markMem isMark
    have starts : ∀ mark ∈ Encoding.marks, mark.1 = [0x00, 0x00, 0xFE, 0xFF] ∨
        mark.1.head?.any fun byte => 0x80 ≤ byte := by
      decide
    have other := starts mark markMem
    obtain ⟨bytes, encoding⟩ := mark
    rcases other with rfl | other
    · exact Bool.false_ne_true (unmarked.symm.trans isMark)
    · cases bytes with
      | nil => cases other
      | cons byte more =>
          simp only [List.isPrefixOf, Bool.and_eq_true, beq_iff_eq] at isMark
          obtain ⟨rfl, _⟩ := isMark
          simp only [List.head?_cons, Option.any_some, decide_eq_true_eq] at other
          exact absurd ascii (UInt8.not_lt.mpr other)
  simp only [Encoding.detect, noMark]

/-- Bytes without a zero that start with an ASCII character are taken for UTF-8. -/
theorem detect_of_ascii {first : UInt8} {rest : List UInt8} (ascii : first < 0x80)
    (nonzero : first ≠ 0) (restNonzero : 0 ∉ rest) :
    Encoding.detect (first :: rest) = (.utf8, first :: rest) := by
  rw [detect_of_unmarked ascii (by simp [List.isPrefixOf, nonzero.symm])]
  cases rest with
  | nil => rfl
  | cons second rest =>
      have secondNonzero : second ≠ 0 := fun isZero => restNonzero (isZero ▸ List.mem_cons_self)
      match rest with
      | [] => simp [Encoding.ofZeroBytes, nonzero, secondNonzero]
      | [_] => rfl
      | _ :: _ :: _ => simp [Encoding.ofZeroBytes, nonzero, secondNonzero]

/-- Characters that start with one in ASCII and hold no zero are taken for UTF-8. -/
theorem detect_flatMap {first : Char} {rest : List Char} (ascii : first.toNat < 0x80)
    (nonzero : ∀ value ∈ first :: rest, value.toNat ≠ 0) :
    Encoding.detect ((first :: rest).flatMap String.utf8EncodeChar) =
      (.utf8, (first :: rest).flatMap String.utf8EncodeChar) := by
  have firstNonzero := nonzero first List.mem_cons_self
  rw [List.flatMap_cons, utf8EncodeChar_ascii ascii, List.singleton_append]
  apply detect_of_ascii (ofNat_lt_ascii ascii)
  · exact ofNat_ne_zero (Nat.pos_of_ne_zero firstNonzero) (by omega)
  · intro zeroMem
    obtain ⟨value, valueMem, zeroIn⟩ := List.mem_flatMap.mp zeroMem
    exact zero_not_mem_utf8EncodeChar (nonzero value (List.mem_cons_of_mem _ valueMem)) zeroIn

/-- A text that starts with an ASCII character and holds no zero is a document in UTF-8. -/
theorem decodeDetected?_encode {source : String}
    (ascii : ∀ first ∈ source.toList.head?, first.toNat < 0x80)
    (nonzero : ∀ value ∈ source.toList, value.toNat ≠ 0) :
    Encoding.decodeDetected? (encode source) = some (CodePoint.ofText source) := by
  have detected : Encoding.detect (encode source) = (.utf8, encode source) := by
    rw [encode]
    cases characters : source.toList with
    | nil => rfl
    | cons first rest =>
        rw [characters] at ascii nonzero
        exact detect_flatMap (ascii first rfl) nonzero
  simp only [Encoding.decodeDetected?, detected, Encoding.decode?]
  exact decode?_encode true source

end Utf8

end FederatedLogin.Text

import FederatedLogin.Proofs.Text.Utf8

/-!
# Texts in every encoding

A text is carried in one of five encodings, with a byte order mark in front of it or without one.
Each encoding reads its own bytes again as the text.

Which encoding it is shows in the first bytes.  Where the text starts with an ASCII character and
holds no zero, the zeros among its bytes come from the width of the units alone, so it is recognised
in all ten forms.
-/

namespace FederatedLogin.Text.Encoding

/-! ## The bytes of a text -/

/-- The bytes of a unit of UTF-16. -/
def bytes16 (order : ByteOrder) (unit : Nat) : List UInt8 :=
  match order with
  | .little => [UInt8.ofNat (unit % 0x100), UInt8.ofNat (unit / 0x100)]
  | .big => [UInt8.ofNat (unit / 0x100), UInt8.ofNat (unit % 0x100)]

/-- The bytes of a unit of UTF-32. -/
def bytes32 (order : ByteOrder) (unit : Nat) : List UInt8 :=
  match order with
  | .little => bytes16 .little (unit % 0x10000) ++ bytes16 .little (unit / 0x10000)
  | .big => bytes16 .big (unit / 0x10000) ++ bytes16 .big (unit % 0x10000)

/-- The units of UTF-16 that stand for a character: beyond U+FFFF these are two halves. -/
def units16 (value : Char) : List Nat :=
  if value.toNat < 0x10000 then [value.toNat]
  else
    let offset := value.toNat - 0x10000
    [0xD800 + offset / 0x400, 0xDC00 + offset % 0x400]

/-- The bytes of a character. -/
def encodeChar (encoding : Encoding) (value : Char) : List UInt8 :=
  match encoding with
  | .utf8 => String.utf8EncodeChar value
  | .utf16 order => (units16 value).flatMap (bytes16 order)
  | .utf32 order => bytes32 order value.toNat

/-- The bytes of a text. -/
def encode (encoding : Encoding) (source : String) : List UInt8 :=
  source.toList.flatMap encoding.encodeChar

/-! ## Reading the units again -/

section Units

variable {order : ByteOrder} {done : List Nat}

/-- A reader that takes in one unit after the other reads all of them. -/
theorem reads_flatMap {read : List Nat → List UInt8 → Option (List Nat)}
    {write : Nat → List UInt8} (ends : ∀ done, read done [] = some done.reverse) {units : List Nat}
    (takes : ∀ unit ∈ units, ∀ done rest, read done (write unit ++ rest) = read (unit :: done) rest) :
    read done (units.flatMap write) = some (done.reverse ++ units) := by
  induction units generalizing done with
  | nil => simp [ends]
  | cons unit rest ih =>
      rw [List.flatMap_cons, takes unit List.mem_cons_self,
        ih fun other otherMem => takes other (List.mem_cons_of_mem _ otherMem)]
      simp

theorem units16From?_bytes16 {unit : Nat} (small : unit < 0x10000) (rest : List UInt8) :
    units16From? order done (bytes16 order unit ++ rest) =
      units16From? order (unit :: done) rest := by
  have lowSmall : unit % 0x100 < 0x100 := Nat.mod_lt _ (by decide)
  have highSmall : unit / 0x100 < 0x100 := by omega
  have whole : unit / 0x100 * 0x100 + unit % 0x100 = unit := by omega
  cases order <;>
    simp only [bytes16, List.cons_append, List.nil_append, units16From?, unit16,
      Utf8.toNat_ofNat lowSmall, Utf8.toNat_ofNat highSmall, whole]

theorem units32From?_bytes32 {unit : Nat} (small : unit < 0x110000) (rest : List UInt8) :
    units32From? order done (bytes32 order unit ++ rest) =
      units32From? order (unit :: done) rest := by
  have byteSmall (part : Nat) : part % 0x100 < 0x100 := Nat.mod_lt _ (by decide)
  have lowSmall : unit % 0x10000 / 0x100 < 0x100 := by omega
  have highSmall : unit / 0x10000 / 0x100 < 0x100 := by omega
  have whole : (unit / 0x10000 / 0x100 * 0x100 + unit / 0x10000 % 0x100) * 0x10000 +
      (unit % 0x10000 / 0x100 * 0x100 + unit % 0x10000 % 0x100) = unit := by
    omega
  cases order <;>
    simp only [bytes32, bytes16, List.cons_append, List.nil_append, units32From?, unit16,
      Utf8.toNat_ofNat (byteSmall _), Utf8.toNat_ofNat lowSmall, Utf8.toNat_ofNat highSmall, whole]

theorem units16_small (value : Char) : ∀ unit ∈ units16 value, unit < 0x10000 := by
  obtain ⟨_, bound⟩ := CodePoint.toNat_scalar value
  intro unit unitMem
  rw [units16] at unitMem
  split at unitMem
  · rw [List.mem_singleton] at unitMem
    omega
  · simp only [List.mem_cons, List.not_mem_nil, or_false] at unitMem
    omega

/-- The units of a character are joined to its position, whatever follows them. -/
theorem points16From_units16 (value : Char) (rest : List Nat) :
    points16From done (units16 value ++ rest) = points16From (value.toNat :: done) rest := by
  obtain ⟨scalar, bound⟩ := CodePoint.toNat_scalar value
  rw [units16]
  split
  · next small =>
    -- No character is half of a pair, so nothing is joined to it.
    have notHigh : isHigh value.toNat = false := by
      simp only [isHigh, Bool.and_eq_false_iff, decide_eq_false_iff_not]
      omega
    cases rest with
    | nil => rfl
    | cons next rest => simp [points16From, notHigh]
  · next large =>
    generalize offset_eq : value.toNat - 0x10000 = offset
    have high : isHigh (0xD800 + offset / 0x400) = true := by
      simp only [isHigh, Bool.and_eq_true, decide_eq_true_eq]
      omega
    have low : isLow (0xDC00 + offset % 0x400) = true := by
      simp only [isLow, Bool.and_eq_true, decide_eq_true_eq]
      omega
    have joined : pairPosition (0xD800 + offset / 0x400) (0xDC00 + offset % 0x400) =
        value.toNat := by
      unfold pairPosition
      omega
    simp only [List.cons_append, List.nil_append, points16From, high, low, Bool.and_self, if_true,
      joined]

theorem points16From_flatMap (values : List Char) :
    points16From done (values.flatMap units16) = done.reverse ++ values.map Char.toNat := by
  induction values generalizing done with
  | nil => simp [points16From]
  | cons value rest ih =>
      rw [List.flatMap_cons, points16From_units16, ih]
      simp

end Units

theorem mapM_ofNat?_toNat (values : List Char) :
    (values.map Char.toNat).mapM CodePoint.ofNat? = some (values.map .char) := by
  induction values with
  | nil => rfl
  | cons value rest ih => simp [List.mapM_cons, CodePoint.ofNat?_toNat, ih]

/-- Every encoding reads its own bytes again as the text. -/
theorem decode?_encode (encoding : Encoding) (source : String) :
    encoding.decode? (encoding.encode source) = some (CodePoint.ofText source) := by
  cases encoding with
  | utf8 => exact Utf8.decode?_encode true source
  | utf16 order =>
      have small : ∀ unit ∈ source.toList.flatMap units16, unit < 0x10000 := by
        intro unit unitMem
        obtain ⟨value, _, unitIn⟩ := List.mem_flatMap.mp unitMem
        exact units16_small value unit unitIn
      have bytes_eq : encode (.utf16 order) source =
          (source.toList.flatMap units16).flatMap (bytes16 order) := List.flatMap_assoc.symm
      have units_eq : units16From? order [] ((source.toList.flatMap units16).flatMap
          (bytes16 order)) = some (source.toList.flatMap units16) :=
        reads_flatMap (fun _ => rfl) fun unit unitMem _ rest =>
          units16From?_bytes16 (small unit unitMem) rest
      rw [bytes_eq, decode?, units_eq]
      simp only [Option.bind_eq_bind, Option.bind_some, points16From_flatMap]
      exact mapM_ofNat?_toNat source.toList
  | utf32 order =>
      have small : ∀ unit ∈ source.toList.map Char.toNat, unit < 0x110000 :=
        List.forall_mem_map.mpr fun value _ => (CodePoint.toNat_scalar value).2
      have bytes_eq : encode (.utf32 order) source =
          (source.toList.map Char.toNat).flatMap (bytes32 order) := by
        rw [List.flatMap_map]
        rfl
      have units_eq : units32From? order [] ((source.toList.map Char.toNat).flatMap
          (bytes32 order)) = some (source.toList.map Char.toNat) :=
        reads_flatMap (fun _ => rfl) fun unit unitMem _ rest =>
          units32From?_bytes32 (small unit unitMem) rest
      rw [bytes_eq, decode?, units_eq]
      exact mapM_ofNat?_toNat source.toList

/-! ## Recognising the encoding -/

/-- A form in which a text is carried: an encoding, with a byte order mark or without one. -/
structure Carrier where
  encoding : Encoding
  marked : Bool
  deriving DecidableEq, Repr

/-- The bytes that carry a text. -/
def Carrier.bytes (carrier : Carrier) (source : String) : List UInt8 :=
  (if carrier.marked then carrier.encoding.encodeChar '\uFEFF' else []) ++
    carrier.encoding.encode source

/-- A byte order mark names its encoding.  That of UTF-16 with the low byte first must not be
followed by two zeros, because with them it is another one. -/
theorem detect_encodeChar_append (encoding : Encoding) {content : List UInt8}
    (noZeros : encoding = .utf16 .little → List.isPrefixOf [0x00, 0x00] content = false) :
    detect (encoding.encodeChar '\uFEFF' ++ content) = (encoding, content) := by
  cases encoding with
  | utf8 => rfl
  | utf16 order =>
      cases order with
      | little =>
          have mark_eq : encodeChar (.utf16 .little) '\uFEFF' = [0xFF, 0xFE] := by decide
          have notLonger : List.isPrefixOf [0xFF, 0xFE, 0x00, 0x00] (0xFF :: 0xFE :: content) =
              false := noZeros rfl
          simp only [mark_eq, List.cons_append, List.nil_append, detect, marks, List.find?,
            notLonger]
          rfl
      | big => rfl
  | utf32 order => cases order <;> rfl

variable {value first : Char} {rest : List Char}

/-- The bytes of an ASCII character in UTF-16 are its own and a zero. -/
theorem encodeChar_utf16_ascii (order : ByteOrder) (ascii : value.toNat < 0x80) :
    encodeChar (.utf16 order) value = match order with
      | .little => [UInt8.ofNat value.toNat, 0]
      | .big => [0, UInt8.ofNat value.toNat] := by
  rw [encodeChar, units16, if_pos (by omega), List.flatMap_singleton, bytes16.eq_def,
    Nat.mod_eq_of_lt (by omega), Nat.div_eq_of_lt (by omega)]
  rfl

/-- The bytes of an ASCII character in UTF-32 are its own and three zeros. -/
theorem encodeChar_utf32_ascii (order : ByteOrder) (ascii : value.toNat < 0x80) :
    encodeChar (.utf32 order) value = match order with
      | .little => [UInt8.ofNat value.toNat, 0, 0, 0]
      | .big => [0, 0, 0, UInt8.ofNat value.toNat] := by
  have noHigh : value.toNat / 0x10000 = 0 := Nat.div_eq_of_lt (by omega)
  have low : value.toNat % 0x10000 = value.toNat := Nat.mod_eq_of_lt (by omega)
  have noMiddle : value.toNat / 0x100 = 0 := Nat.div_eq_of_lt (by omega)
  have lowest : value.toNat % 0x100 = value.toNat := Nat.mod_eq_of_lt (by omega)
  cases order <;>
    simp only [encodeChar, bytes32, bytes16, noHigh, low, noMiddle, lowest] <;> rfl

/-- A unit that is not zero does not take two zeros. -/
theorem exists_bytes16 (order : ByteOrder) {unit : Nat} (positive : 0 < unit)
    (small : unit < 0x10000) :
    ∃ one other, bytes16 order unit = [one, other] ∧ ¬(one = 0 ∧ other = 0) := by
  have someNonzero : ¬(UInt8.ofNat (unit % 0x100) = 0 ∧ UInt8.ofNat (unit / 0x100) = 0) := by
    rintro ⟨lowZero, highZero⟩
    by_cases onlyLow : unit / 0x100 = 0
    · have lowPositive : 0 < unit % 0x100 := by omega
      exact Utf8.ofNat_ne_zero lowPositive (by omega) lowZero
    · have highPositive : 0 < unit / 0x100 := Nat.pos_of_ne_zero onlyLow
      exact Utf8.ofNat_ne_zero highPositive (by omega) highZero
  cases order with
  | little => exact ⟨_, _, rfl, someNonzero⟩
  | big => exact ⟨_, _, rfl, fun zeros => someNonzero zeros.symm⟩

/-- Only the zero has a zero as its first unit. -/
theorem exists_units16 (nonzero : value.toNat ≠ 0) :
    ∃ unit more, units16 value = unit :: more ∧ 0 < unit := by
  rw [units16]
  split
  · exact ⟨_, _, rfl, Nat.pos_of_ne_zero nonzero⟩
  · exact ⟨_, _, rfl, by omega⟩

/-- In UTF-16 a character takes two bytes or more, and the first two are zeros only if it is the
zero. -/
theorem exists_encodeChar_utf16 (order : ByteOrder) (nonzero : value.toNat ≠ 0) :
    ∃ one other more, encodeChar (.utf16 order) value = one :: other :: more ∧
      ¬(one = 0 ∧ other = 0) := by
  obtain ⟨unit, more, units_eq, positive⟩ := exists_units16 nonzero
  have small : unit < 0x10000 := units16_small value unit (units_eq ▸ List.mem_cons_self)
  obtain ⟨one, other, bytes_eq, someNonzero⟩ := exists_bytes16 order positive small
  refine ⟨one, other, more.flatMap (bytes16 order), ?_, someNonzero⟩
  rw [encodeChar, units_eq, List.flatMap_cons, bytes_eq]
  rfl

/-- Without a byte order mark, characters that start with one in ASCII and hold no zero show their
encoding in their zeros. -/
theorem detect_flatMap (encoding : Encoding) (ascii : first.toNat < 0x80)
    (nonzero : ∀ value ∈ first :: rest, value.toNat ≠ 0) :
    detect ((first :: rest).flatMap encoding.encodeChar) =
      (encoding, (first :: rest).flatMap encoding.encodeChar) := by
  have byteAscii := Utf8.ofNat_lt_ascii ascii
  have byteNonzero : UInt8.ofNat first.toNat ≠ 0 :=
    Utf8.ofNat_ne_zero (Nat.pos_of_ne_zero (nonzero first List.mem_cons_self)) (by omega)
  generalize own_eq : UInt8.ofNat first.toNat = own at byteAscii byteNonzero
  cases encoding with
  | utf8 => exact Utf8.detect_flatMap ascii nonzero
  | utf16 order =>
      rw [List.flatMap_cons, encodeChar_utf16_ascii order ascii, own_eq]
      cases order with
      | little =>
          simp only [List.cons_append, List.nil_append]
          rw [Utf8.detect_of_unmarked byteAscii (by simp [List.isPrefixOf, byteNonzero.symm])]
          cases rest with
          | nil => simp [ofZeroBytes, byteNonzero]
          | cons second more =>
              obtain ⟨third, fourth, after, bytes_eq, someNonzero⟩ :=
                exists_encodeChar_utf16 .little (nonzero second (by simp))
              simp [bytes_eq, ofZeroBytes, byteNonzero, someNonzero]
      | big =>
          simp only [List.cons_append, List.nil_append]
          rw [Utf8.detect_of_unmarked (by decide) (by simp [List.isPrefixOf, byteNonzero.symm])]
          cases rest with
          | nil => simp [ofZeroBytes]
          | cons second more =>
              obtain ⟨third, fourth, after, bytes_eq, _⟩ :=
                exists_encodeChar_utf16 .big (nonzero second (by simp))
              simp [bytes_eq, ofZeroBytes, byteNonzero]
  | utf32 order =>
      rw [List.flatMap_cons, encodeChar_utf32_ascii order ascii, own_eq]
      cases order with
      | little =>
          simp only [List.cons_append, List.nil_append]
          rw [Utf8.detect_of_unmarked byteAscii (by simp [List.isPrefixOf])]
          simp [ofZeroBytes, byteNonzero]
      | big => rfl

/-- A text that starts with an ASCII character and holds no zero is read again in whatever form it
is carried. -/
theorem decodeDetected?_bytes (carrier : Carrier) {source : String}
    (ascii : ∀ first ∈ source.toList.head?, first.toNat < 0x80)
    (nonzero : ∀ value ∈ source.toList, value.toNat ≠ 0) :
    decodeDetected? (carrier.bytes source) = some (CodePoint.ofText source) := by
  obtain ⟨encoding, marked⟩ := carrier
  cases marked with
  | true =>
      have noZeros : encoding = .utf16 .little →
          List.isPrefixOf [0x00, 0x00] (encoding.encode source) = false := by
        rintro rfl
        rw [encode]
        cases characters : source.toList with
        | nil => rfl
        | cons first rest =>
            rw [characters] at nonzero
            obtain ⟨one, other, more, bytes_eq, someNonzero⟩ :=
              exists_encodeChar_utf16 .little (nonzero first List.mem_cons_self)
            rw [List.flatMap_cons, bytes_eq, Bool.eq_false_iff]
            intro zeros
            simp only [List.cons_append, List.isPrefixOf, Bool.and_true, Bool.and_eq_true,
              beq_iff_eq] at zeros
            exact someNonzero ⟨zeros.1.symm, zeros.2.symm⟩
      simp only [Carrier.bytes, if_true, decodeDetected?, detect_encodeChar_append encoding noZeros,
        decode?_encode]
  | false =>
      simp only [Carrier.bytes, Bool.false_eq_true, if_false, List.nil_append]
      cases characters : source.toList with
      | nil =>
          have isEmpty : encoding.encode source = [] := by rw [encode, characters]; rfl
          rw [isEmpty, CodePoint.ofText, characters]
          rfl
      | cons first rest =>
          rw [characters] at ascii nonzero
          have detected : detect (encoding.encode source) = (encoding, encoding.encode source) := by
            rw [encode, characters]
            exact detect_flatMap encoding (ascii first rfl) nonzero
          simp only [decodeDetected?, detected, decode?_encode]

end FederatedLogin.Text.Encoding

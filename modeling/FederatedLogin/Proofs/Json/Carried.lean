import FederatedLogin.Json.Reader
import FederatedLogin.Proofs.Text.Case
import FederatedLogin.Proofs.Text.Encoding

/-!
# Documents are read alike in every encoding

A document holds no zero, because the lexer takes it in nowhere, and starts with an ASCII character,
because there is no other that a token starts with or that stands before one.  That is what the
recognition of an encoding relies on.
-/

namespace FederatedLogin.Json

open FederatedLogin.Text

namespace Token

variable {done : List Token} {state : List Token × Place} {document : List CodePoint}

/-! ## What a document is made of -/

theorem step_zero (state : List Token × Place) : step state (.char '\x00') = none := by
  obtain ⟨done, place⟩ := state
  cases place with
  | between => rfl
  | word read =>
      rw [step]
      cases ofWord? read.reverse <;> rfl
  | string read half => rfl
  | escape read half => rfl
  | hex read half missing unit => rfl

/-- The lexer comes to an end only over code points that it takes in somewhere. -/
theorem run_eq_none_of_mem {point : CodePoint} (refused : ∀ state, step state point = none)
    (pointMem : point ∈ document) : run state document = none := by
  induction document generalizing state with
  | nil => cases pointMem
  | cons first rest ih =>
      rw [run]
      cases taken : step state first with
      | none => rfl
      | some next =>
          rcases List.mem_cons.mp pointMem with rfl | restMem
          · rw [refused state] at taken
            cases taken
          · exact ih restMem

theorem isAscii_of_isBare {value : Char} (bare : isBare value) : value.toNat < 0x80 := by
  simp only [isBare, Bool.or_eq_true, beq_iff_eq] at bare
  rcases bare with ((alphanum | rfl) | rfl) | rfl
  · exact (toNat_of_isAlphanum alphanum).2.trans_lt (by decide)
  all_goals decide

theorem isAscii_of_isSpace {value : Char} (space : isSpace value) : value.toNat < 0x80 := by
  simp only [isSpace, Bool.or_eq_true, beq_iff_eq] at space
  rcases space with ((rfl | rfl) | rfl) | rfl
  all_goals decide

theorem isAscii_of_punctuation? {value : Char} {token : Token}
    (isToken : punctuation? value = some token) : value.toNat < 0x80 := by
  revert isToken
  rw [punctuation?.eq_def]
  split
  all_goals intro isToken
  case h_7 => cases isToken
  all_goals decide

/-- Between tokens only ASCII characters are taken in. -/
theorem isAscii_of_stepBetween {value : Char} {next : List Token × Place}
    (taken : stepBetween done (.char value) = some next) : value.toNat < 0x80 := by
  rw [stepBetween] at taken
  split at taken
  · next space => exact isAscii_of_isSpace space
  · split at taken
    · next quote =>
      subst quote
      decide
    · split at taken
      · next bare => exact isAscii_of_isBare bare
      · obtain ⟨token, isToken, _⟩ := Option.map_eq_some_iff.mp taken
        exact isAscii_of_punctuation? isToken

end Token

/-! ## Documents -/

variable [Platform] {source : String}

/-- A text with tokens holds no zero. -/
theorem nonzero_of_isDocument (isDocument : (Value.ofText? source).isSome) :
    ∀ value ∈ source.toList, value.toNat ≠ 0 := by
  intro value valueMem isZero
  have zeroMem : CodePoint.char '\x00' ∈ CodePoint.ofText source := by
    have same : value = '\x00' := Char.toNat_inj.mp isZero
    exact same ▸ List.mem_map_of_mem valueMem
  rw [Value.ofText?, Value.ofPoints?, Token.ofPoints?,
    Token.run_eq_none_of_mem Token.step_zero zeroMem] at isDocument
  cases isDocument

/-- A text with tokens starts with an ASCII character. -/
theorem isAscii_of_isDocument (isDocument : (Value.ofText? source).isSome) :
    ∀ first ∈ source.toList.head?, first.toNat < 0x80 := by
  intro first isFirst
  obtain ⟨rest, characters⟩ := List.head?_eq_some_iff.mp isFirst
  rw [Value.ofText?, Value.ofPoints?, Token.ofPoints?, CodePoint.ofText, characters,
    List.map_cons, Token.run] at isDocument
  cases taken : Token.step ([], .between) (.char first) with
  | none =>
      rw [taken] at isDocument
      cases isDocument
  | some next => exact Token.isAscii_of_stepBetween taken

/-- A document has the same value in whatever form its text is carried. -/
theorem Value.ofBytes?_bytes (isDocument : (ofText? source).isSome)
    (carrier : Encoding.Carrier) : ofBytes? (carrier.bytes source) = ofText? source := by
  rw [ofBytes?, Encoding.decodeDetected?_bytes carrier (isAscii_of_isDocument isDocument)
    (nonzero_of_isDocument isDocument)]
  rfl

end FederatedLogin.Json

import FederatedLogin.Proofs.Json.Escape
import FederatedLogin.Proofs.Number.Written

/-!
# The tokens of a written value

Values without real numbers and without lone surrogates are legible: what is written of them is read
as their tokens.  A bare word is read only when something else follows it, so the lexer may stand
inside the last word of a value when the value ends.
-/

namespace FederatedLogin.Json

open FederatedLogin.Text FederatedLogin.Number

/-! ## Bare words -/

/-- A positive number is not written with a zero in front. -/
theorem head?_toDigits_ne_zero {number : Nat} (positive : 0 < number) :
    (Nat.toDigits 10 number).head? ≠ some '0' := by
  induction number using Nat.strongRecOn with
  | ind number ih =>
      by_cases small : number < 10
      · have digits : ∀ digit < 10, 0 < digit → Nat.digitChar digit ≠ '0' := by decide
        rw [Nat.toDigits_of_lt_base small, List.head?_cons]
        intro same
        exact digits number small positive (Option.some.inj same)
      · rw [Nat.toDigits_of_base_le (by decide) (by omega),
          List.head?_append_of_ne_nil _ Nat.toDigits_ne_nil]
        exact ih (number / 10) (by omega) (by omega)

namespace Token

theorem splitWhole_toDigits (magnitude : Nat) :
    splitWhole (Nat.toDigits 10 magnitude) = some (Nat.toDigits 10 magnitude, []) := by
  have allDigits : (Nat.toDigits 10 magnitude).takeWhile isAsciiDigit =
      Nat.toDigits 10 magnitude := by
    rw [List.takeWhile_eq_self_iff]
    intro digit digitMem
    exact Written.isAsciiDigit_iff.mpr
      (Nat.isDigit_of_mem_toDigits (by decide) (by decide) digitMem)
  cases magnitude with
  | zero => rfl
  | succ smaller =>
      have noZero := head?_toDigits_ne_zero (Nat.succ_pos smaller)
      have nonempty : Nat.toDigits 10 (smaller + 1) ≠ [] := Nat.toDigits_ne_nil
      rw [splitWhole, allDigits]
      generalize Nat.toDigits 10 (smaller + 1) = digits at noZero nonempty
      cases digits with
      | nil => exact absurd rfl nonempty
      | cons first rest =>
          have notZero : first ≠ '0' := fun same => noZero (same ▸ rfl)
          simp [notZero]

/-- Digits are read as the number that they write, with the sign that stood before them. -/
theorem number?_of_toDigits {word : List Char} {negative : Bool} {magnitude : Nat}
    (unsigned : splitMinus word = (negative, Nat.toDigits 10 magnitude))
    (short : magnitude < 10 ^ maxDigits) :
    number? word = some (.integer (if negative then -(magnitude : Int) else magnitude)) := by
  have length_le : (Nat.toDigits 10 magnitude).length ≤ maxDigits :=
    (Nat.length_toDigits_le_iff (by decide) (by decide)).mpr short
  rw [number?, unsigned]
  simp [splitWhole_toDigits, splitFraction, length_le, Written.naturalOfDigits_eq,
    Nat.ofDigitChars_ten_toDigits]

theorem number?_toString {number : Int} (short : number.natAbs < 10 ^ maxDigits) :
    number? (toString number).toList = some (.integer number) := by
  cases number with
  | ofNat magnitude =>
      have unsigned : splitMinus (Nat.toDigits 10 magnitude) =
          (false, Nat.toDigits 10 magnitude) := by
        rw [splitMinus.eq_def]
        split
        · next written =>
          have minus : '-' ∈ Nat.toDigits 10 magnitude := written ▸ List.mem_cons_self
          exact absurd (Nat.isDigit_of_mem_toDigits (by decide) (by decide) minus) (by decide)
        · rfl
      rw [Written.toList_toString_ofNat]
      exact number?_of_toDigits unsigned short
  | negSucc magnitude =>
      have unsigned : splitMinus ('-' :: Nat.toDigits 10 (magnitude + 1)) =
          (true, Nat.toDigits 10 (magnitude + 1)) := rfl
      rw [Written.toList_toString_negSucc]
      exact number?_of_toDigits unsigned short

/-- No literal is written in digits. -/
theorem find?_literals_of_isPlain {word : List Char}
    (plain : ∀ value ∈ word, Written.IsPlain value) :
    (literals.find? fun literal => literal.1.toList == word) = none := by
  have letters : literals.all (fun literal => literal.1.toList.any fun value =>
      !(value.isDigit || value == '-')) = true := by
    decide
  rw [List.find?_eq_none]
  intro literal literalMem same
  have letter := List.all_eq_true.mp letters literal literalMem
  rw [beq_iff_eq.mp same, List.any_eq_true] at letter
  obtain ⟨value, valueMem, notPlain⟩ := letter
  rcases plain value valueMem with isDigit | rfl
  · simp [isDigit] at notPlain
  · cases notPlain

/-- An integer that is written out is read as that integer. -/
theorem ofWord?_toString {number : Int} (short : number.natAbs < 10 ^ maxDigits) :
    ofWord? (toString number).toList = some (.integer number) := by
  have plain : ∀ value ∈ (toString number).toList, Written.IsPlain value := fun _ valueMem =>
    Written.isPlain_of_mem_toString valueMem
  rw [ofWord?, find?_literals_of_isPlain plain]
  exact number?_toString short

/-- Bare characters after bare characters make the word longer. -/
theorem run_word {word : List Char} (bare : word.all isBare = true) (done : List Token)
    (read : List Char) :
    run (done, .word read) (word.map .char) = some (done, .word (word.reverse ++ read)) := by
  induction word generalizing read with
  | nil => rfl
  | cons value word ih =>
      rw [List.all_cons, Bool.and_eq_true] at bare
      have taken : step (done, .word read) (.char value) = some (done, .word (value :: read)) := by
        simp only [step, bare.1, if_true]
      simp only [List.map_cons, run, taken]
      rw [ih bare.2, List.reverse_cons, List.append_assoc]
      rfl

/-! ## Between two tokens -/

/-- Where the lexer may stand once these tokens, last first, have been written: between tokens, or
in the word of the last one. -/
inductive Past : List Token → List Token × Place → Prop where
  | between (done : List Token) : Past done (done, .between)
  | word {done : List Token} {read : List Char} {scalar : Value}
      (means : ofWord? read.reverse = some scalar) :
      Past (.scalar scalar :: done) (done, .word read)

variable {done : List Token} {state : List Token × Place}

/-- A character that is a token of its own ends a word. -/
theorem Past.step_punctuation (past : Past done state) {value : Char} {token : Token}
    (isToken : punctuation? value = some token) :
    step state (.char value) = some (token :: done, .between) := by
  have separate : isSpace value = false ∧ value ≠ '"' ∧ isBare value = false := by
    revert isToken
    rw [punctuation?.eq_def]
    split
    all_goals intro isToken
    case h_7 => cases isToken
    all_goals decide
  have between (done : List Token) : stepBetween done (.char value) =
      some (token :: done, .between) := by
    simp [stepBetween, separate, isToken]
  cases past with
  | between => exact between done
  | word means => simp [step, separate, means, between]

/-- At the end of a document the tokens are complete. -/
theorem Past.finish_eq (past : Past done state) : finish state = some done.reverse := by
  cases past with
  | between => rfl
  | word means => simp [finish, means]

/-- Spaces change nothing between tokens. -/
theorem run_spaces (done : List Token) (count : Nat) (rest : List CodePoint) :
    run (done, .between) ((List.replicate count ' ').map .char ++ rest) =
      run (done, .between) rest := by
  induction count with
  | zero => rfl
  | succ count ih =>
      have skipped : step (done, .between) (.char ' ') = some (done, .between) := rfl
      simp only [List.replicate_succ, List.map_cons, List.cons_append, run, skipped]
      exact ih

/-- A bare word leaves the lexer inside it. -/
theorem run_ofWord? {word : List Char} {scalar : Value} (bare : word.all isBare = true)
    (nonempty : word ≠ []) (means : ofWord? word = some scalar) (done : List Token) :
    ∃ state, run (done, .between) (word.map .char) = some state ∧
      Past (.scalar scalar :: done) state := by
  cases word with
  | nil => exact absurd rfl nonempty
  | cons first rest =>
      rw [List.all_cons, Bool.and_eq_true] at bare
      have starts : step (done, .between) (.char first) = some (done, .word [first]) := by
        have separate : isSpace first = false ∧ first ≠ '"' := by
          refine ⟨Bool.eq_false_iff.mpr fun space => ?_, ?_⟩
          · simp only [isSpace, Bool.or_eq_true, beq_iff_eq] at space
            obtain ((rfl | rfl) | rfl) | rfl := space
            all_goals cases bare.1
          · rintro rfl
            cases bare.1
        simp [step, stepBetween, separate, bare.1]
      refine ⟨(done, .word (rest.reverse ++ [first])), ?_, .word ?_⟩
      · simp only [List.map_cons, run, starts]
        exact run_word bare.2 done [first]
      · simp [means]

/-! ## What is written of tokens -/

/-- Characters that are read as these tokens, wherever they start between two tokens. -/
def Spells (source : List Char) (tokens : List Token) : Prop :=
  ∀ done, ∃ state, run (done, .between) (source.map .char) = some state ∧
    Past (tokens.reverse ++ done) state

namespace Spells

variable {source before after : List Char} {tokens tokensBefore tokensAfter : List Token}
  {mark : Char} {token : Token}

theorem nil : Spells [] [] := fun done => ⟨(done, .between), rfl, .between done⟩

theorem word {scalar : Value} (bare : source.all isBare = true) (nonempty : source ≠ [])
    (means : ofWord? source = some scalar) : Spells source [.scalar scalar] :=
  fun done => run_ofWord? bare nonempty means done

theorem string (layout : Layout) (source : String) :
    Spells (Printer.string layout (CodePoint.ofText source)) [.text (CodePoint.ofText source)] := by
  intro done
  have readOn : run (done, .between)
      ((Printer.string layout (CodePoint.ofText source)).map .char ++ []) =
        some (.text (CodePoint.ofText source) :: done, .between) := run_string layout source
  rw [List.append_nil] at readOn
  exact ⟨(.text (CodePoint.ofText source) :: done, .between), readOn, .between _⟩

/-- A character that is a token of its own separates what stands before it from what follows. -/
theorem append_cons (spells : Spells before tokensBefore) (isToken : punctuation? mark = some token)
    (spellsAfter : Spells after tokensAfter) :
    Spells (before ++ mark :: after) (tokensBefore ++ token :: tokensAfter) := by
  intro done
  obtain ⟨middle, readBefore, past⟩ := spells done
  obtain ⟨last, readAfter, pastAll⟩ := spellsAfter (token :: (tokensBefore.reverse ++ done))
  refine ⟨last, ?_, by simpa using pastAll⟩
  rw [List.map_append, run_append, readBefore, Option.bind_some, List.map_cons, run,
    past.step_punctuation isToken]
  exact readAfter

theorem cons (isToken : punctuation? mark = some token) (spells : Spells source tokens) :
    Spells (mark :: source) (token :: tokens) :=
  nil.append_cons isToken spells

theorem spaces (count : Nat) (spells : Spells source tokens) :
    Spells (List.replicate count ' ' ++ source) tokens := by
  intro done
  obtain ⟨state, readOn, past⟩ := spells done
  refine ⟨state, ?_, past⟩
  rw [List.map_append, run_spaces]
  exact readOn

end Spells

end Token

/-! ## Values -/

mutual

/-- The tokens of a value. -/
def Value.tokens : Value → List Token
  | .string points => [.text points]
  | .array items => .openArray :: itemTokens items ++ [.closeArray]
  | .object members => .openObject :: memberTokens members ++ [.closeObject]
  | scalar => [.scalar scalar]

/-- The tokens of the items of an array. -/
def itemTokens : List Value → List Token
  | [] => []
  | [item] => item.tokens
  | item :: rest => item.tokens ++ .comma :: itemTokens rest

/-- The tokens of the members of an object. -/
def memberTokens : List (Key × Value) → List Token
  | [] => []
  | [(name, member)] => .text name :: .colon :: member.tokens
  | (name, member) :: rest => .text name :: .colon :: member.tokens ++ .comma :: memberTokens rest

end

/-- A value without real numbers and without lone surrogates, whose integers may be read and that
nests no deeper than a depth. -/
inductive Value.Legible : Nat → Value → Prop where
  | null (depth : Nat) : Legible depth .null
  | bool (depth : Nat) (value : Bool) : Legible depth (.bool value)
  | integer (depth : Nat) {number : Int} (short : number.natAbs < 10 ^ Token.maxDigits) :
      Legible depth (.integer number)
  | text (depth : Nat) (source : String) : Legible depth (.text source)
  | array {depth : Nat} {items : List Value} (each : ∀ item ∈ items, Legible depth item) :
      Legible (depth + 1) (.array items)
  | record {depth : Nat} {members : List (String × Value)}
      (each : ∀ member ∈ members, Legible depth member.2) : Legible (depth + 1) (.record members)

/-- A layout whose separators are a comma and a colon, with nothing but spaces after them. -/
structure Layout.Separates (layout : Layout) : Prop where
  betweenItems : ∃ count, layout.betweenItems = ',' :: List.replicate count ' '
  afterName : ∃ count, layout.afterName = ':' :: List.replicate count ' '

theorem Layout.compact_separates : Layout.compact.Separates :=
  ⟨⟨0, rfl⟩, ⟨0, rfl⟩⟩

theorem Layout.ascii_separates : Layout.ascii.Separates :=
  ⟨⟨1, rfl⟩, ⟨1, rfl⟩⟩

namespace Token

variable {layout : Layout}

theorem spells_items (separates : layout.Separates) {items : List Value}
    (each : ∀ item ∈ items, Spells (Printer.value layout item) item.tokens) :
    Spells (Printer.items layout items) (itemTokens items) := by
  obtain ⟨count, betweenItems⟩ := separates.betweenItems
  induction items with
  | nil => exact .nil
  | cons item rest ih =>
      have first := each item List.mem_cons_self
      cases rest with
      | nil => simpa only [Printer.items, itemTokens] using first
      | cons next rest =>
          have others := ih fun other otherMem => each other (List.mem_cons_of_mem _ otherMem)
          rw [Printer.items, itemTokens, betweenItems, List.append_assoc, List.cons_append]
          · exact first.append_cons rfl (others.spaces count)
          · simp
          · simp

theorem spells_member (separates : layout.Separates) (name : String) {member : Value}
    (spells : Spells (Printer.value layout member) member.tokens) :
    Spells (Printer.string layout (CodePoint.ofText name) ++ layout.afterName ++
      Printer.value layout member) (.text (CodePoint.ofText name) :: .colon :: member.tokens) := by
  obtain ⟨count, afterName⟩ := separates.afterName
  rw [afterName, List.append_assoc, List.cons_append]
  exact (Spells.string layout name).append_cons rfl (spells.spaces count)

theorem spells_members (separates : layout.Separates) {members : List (String × Value)}
    (each : ∀ member ∈ members, Spells (Printer.value layout member.2) member.2.tokens) :
    Spells (Printer.pairs layout (members.map fun member => (CodePoint.ofText member.1, member.2)))
      (memberTokens (members.map fun member => (CodePoint.ofText member.1, member.2))) := by
  obtain ⟨count, betweenItems⟩ := separates.betweenItems
  induction members with
  | nil => exact .nil
  | cons member rest ih =>
      have first := spells_member separates member.1 (each member List.mem_cons_self)
      cases rest with
      | nil => simpa only [List.map_cons, List.map_nil, Printer.pairs, memberTokens] using first
      | cons next rest =>
          have others := ih fun other otherMem => each other (List.mem_cons_of_mem _ otherMem)
          have comma : punctuation? ',' = some .comma := rfl
          have whole := first.append_cons comma (others.spaces count)
          simpa [Printer.pairs, memberTokens, betweenItems] using whole

/-- What is written of a legible value is read as its tokens. -/
theorem spells_value (separates : layout.Separates) {depth : Nat} {value : Value}
    (legible : value.Legible depth) : Spells (Printer.value layout value) value.tokens := by
  induction legible with
  | null =>
      have spells : Spells "null".toList [.scalar .null] := .word (by decide) (by decide) rfl
      exact spells
  | bool depth value =>
      have spells (value : Bool) :
          Spells (if value then "true" else "false").toList [.scalar (.bool value)] := by
        cases value
        · exact .word (by decide) (by decide) rfl
        · exact .word (by decide) (by decide) rfl
      cases value
      · exact spells false
      · exact spells true
  | @integer depth number short =>
      have bare : (toString number).toList.all isBare = true := by
        rw [List.all_eq_true]
        intro digit digitMem
        rcases Written.isPlain_of_mem_toString digitMem with isDigit | rfl
        · simp [isBare, Char.isAlphanum, isDigit]
        · rfl
      have means := ofWord?_toString short
      have nonempty : (toString number).toList ≠ [] := by
        intro isNil
        rw [isNil] at means
        cases means
      exact .word bare nonempty means
  | text depth source => exact .string layout source
  | array each ih =>
      have opens : punctuation? '[' = some .openArray := rfl
      have closes : punctuation? ']' = some .closeArray := rfl
      have inside := (spells_items separates ih).append_cons closes .nil
      simpa only [Printer.value, Value.tokens, List.cons_append] using inside.cons opens
  | record each ih =>
      have opens : punctuation? '\x7b' = some .openObject := rfl
      have closes : punctuation? '\x7d' = some .closeObject := rfl
      have inside := (spells_members separates ih).append_cons closes .nil
      simpa only [Value.record, Printer.value, Value.tokens, List.cons_append] using
        inside.cons opens

end Token

end FederatedLogin.Json

import FederatedLogin.Json.Reader
import FederatedLogin.Proofs.Json.Lexed

/-!
# Values written and read again

The grammar takes the tokens of a value from where a value may start to where it ends.  So a legible
value is read again from what is written of it, as a text and as bytes, whatever its strings hold.
-/

namespace FederatedLogin.Json

open FederatedLogin.Text

/-! ## The grammar -/

namespace Reader

variable [Platform] {stack : List Frame}

/-- Where a value may start. -/
def Starts (awaiting : Awaiting) : Prop :=
  awaiting = .value ∨ awaiting = .itemOrClose

theorem step_of_starts {awaiting : Awaiting} (starts : Starts awaiting) {token : Token}
    (opens : token ≠ .closeArray) : step (awaiting, stack) token = startValue stack token := by
  rcases starts with rfl | rfl
  · rfl
  · rw [step.eq_def]
    split
    all_goals simp_all

/-- A value whose tokens are taken in wherever a value may start, below a depth. -/
def Takes (depth : Nat) (value : Value) : Prop :=
  ∀ {awaiting : Awaiting} {stack : List Frame} (rest : List Token), Starts awaiting →
    stack.length + depth ≤ nestingLimit →
    run (awaiting, stack) (value.tokens ++ rest) = run (.afterValue value, stack) rest

theorem run_cons {state next : Awaiting × List Frame} {token : Token} (rest : List Token)
    (stepped : step state token = some next) : run state (token :: rest) = run next rest := by
  rw [run, stepped]

theorem run_items {depth : Nat} {awaiting : Awaiting} {first : Value} {items : List Value}
    (each : ∀ item ∈ first :: items, Takes depth item) (starts : Starts awaiting)
    (shallow : stack.length + (depth + 1) ≤ nestingLimit) (done : List Value) (rest : List Token) :
    run (awaiting, .array done :: stack) (itemTokens (first :: items) ++ .closeArray :: rest) =
      run (.afterValue (.array (done.reverse ++ first :: items)), stack) rest := by
  have inside : (Frame.array done :: stack).length + depth ≤ nestingLimit := by
    rw [List.length_cons]
    omega
  induction items generalizing awaiting first done with
  | nil =>
      have closes : step (.afterValue first, .array done :: stack) .closeArray =
          some (.afterValue (.array (first :: done).reverse), stack) := rfl
      rw [itemTokens, each first List.mem_cons_self _ starts inside, run_cons rest closes,
        List.reverse_cons]
  | cons next items ih =>
      have others := ih (fun item itemMem => each item (List.mem_cons_of_mem _ itemMem)) (.inl rfl)
        (first :: done) inside
      have separates : step (.afterValue first, .array done :: stack) .comma =
          some (.value, .array (first :: done) :: stack) := rfl
      rw [itemTokens, List.append_assoc, each first List.mem_cons_self _ starts inside,
        List.cons_append, run_cons _ separates, others, List.reverse_cons, List.append_assoc]
      · rfl
      · simp

/-- Where the name of a member may start, after the members that stand before it. -/
def StartsMember (awaiting : Awaiting) (done : List Member) : Prop :=
  (awaiting = .nameOrClose ∧ done = []) ∨ awaiting = .name done

theorem run_member {depth : Nat} {awaiting : Awaiting} {done : List Member} {name : Key}
    {member : Value} (takes : Takes depth member) (starts : StartsMember awaiting done)
    (shallow : stack.length + (depth + 1) ≤ nestingLimit) (rest : List Token) :
    run (awaiting, stack) (.text name :: .colon :: member.tokens ++ rest) =
      run (.afterValue member, .object done name :: stack) rest := by
  have named : step (awaiting, stack) (.text name) = some (.colon done name, stack) := by
    rcases starts with ⟨rfl, rfl⟩ | rfl
    · rfl
    · rfl
  have begins : step (.colon done name, stack) .colon =
      some (.value, .object done name :: stack) := rfl
  have inside : (Frame.object done name :: stack).length + depth ≤ nestingLimit := by
    rw [List.length_cons]
    omega
  rw [List.cons_append, List.cons_append, run_cons _ named, run_cons _ begins,
    takes rest (.inl rfl) inside]

theorem run_members {depth : Nat} {awaiting : Awaiting} {done members : List Member}
    {first : Member} (each : ∀ member ∈ first :: members, Takes depth member.2)
    (starts : StartsMember awaiting done) (shallow : stack.length + (depth + 1) ≤ nestingLimit)
    (rest : List Token) :
    run (awaiting, stack) (memberTokens (first :: members) ++ .closeObject :: rest) =
      run (.afterValue (.object (done.reverse ++ first :: members)), stack) rest := by
  induction members generalizing awaiting first done with
  | nil =>
      have closes : step (.afterValue first.2, .object done first.1 :: stack) .closeObject =
          some (.afterValue (.object (first :: done).reverse), stack) := rfl
      rw [memberTokens, run_member (each first List.mem_cons_self) starts shallow,
        run_cons rest closes, List.reverse_cons]
  | cons next members ih =>
      have others := ih (fun member memberMem => each member (List.mem_cons_of_mem _ memberMem))
        (.inr rfl : StartsMember (.name (first :: done)) (first :: done))
      have separates : step (.afterValue first.2, .object done first.1 :: stack) .comma =
          some (.name (first :: done), stack) := rfl
      rw [memberTokens, List.append_assoc,
        run_member (each first List.mem_cons_self) starts shallow, List.cons_append,
        run_cons _ separates, others, List.reverse_cons, List.append_assoc]
      · rfl
      · simp

/-- The tokens of a legible value are taken in as that value. -/
theorem takes_of_legible {depth : Nat} {value : Value} (legible : value.Legible depth) :
    Takes depth value := by
  have scalar {depth : Nat} {value : Value} (single : value.tokens = [.scalar value]) :
      Takes depth value := by
    intro awaiting stack rest starts _
    have taken : step (awaiting, stack) (.scalar value) = some (.afterValue value, stack) :=
      step_of_starts starts Token.noConfusion
    rw [single, List.singleton_append, run_cons rest taken]
  induction legible with
  | null => exact scalar rfl
  | bool depth value => exact scalar rfl
  | integer => exact scalar rfl
  | text depth source =>
      intro awaiting stack rest starts _
      have taken : step (awaiting, stack) (.text (CodePoint.ofText source)) =
          some (.afterValue (.text source), stack) := step_of_starts starts Token.noConfusion
      exact run_cons rest taken
  | @array depth items each ih =>
      intro awaiting stack rest starts shallow
      have room : stack.length < nestingLimit := by omega
      have opened : step (awaiting, stack) .openArray = some (.itemOrClose, .array [] :: stack) :=
        (step_of_starts starts Token.noConfusion).trans (if_pos room)
      rw [Value.tokens, List.append_assoc, List.cons_append, run_cons _ opened]
      cases items with
      | nil => rfl
      | cons first items => exact run_items ih (.inr rfl) shallow [] rest
  | @record depth members each ih =>
      intro awaiting stack rest starts shallow
      have room : stack.length < nestingLimit := by omega
      have opened : step (awaiting, stack) .openObject = some (.nameOrClose, stack) :=
        (step_of_starts starts Token.noConfusion).trans (if_pos room)
      have named : ∀ member ∈ members.map fun member => (CodePoint.ofText member.1, member.2),
          Takes depth member.2 := List.forall_mem_map.mpr ih
      rw [Value.record, Value.tokens, List.append_assoc, List.cons_append, run_cons _ opened]
      generalize members.map _ = members at named
      cases members with
      | nil => rfl
      | cons first members => exact run_members named (.inl ⟨rfl, rfl⟩) shallow rest

end Reader

/-! ## Documents -/

namespace Value

variable {layout : Layout} {value : Value}

/-- A legible value is read again from its text. -/
theorem ofText?_print [Platform] (separates : layout.Separates) {depth : Nat}
    (legible : value.Legible depth) (shallow : depth ≤ nestingLimit) : ofText? (value.print layout) = some value := by
  obtain ⟨state, readOn, past⟩ := Token.spells_value separates legible []
  have tokens : Token.ofPoints? (CodePoint.ofText (value.print layout)) = some value.tokens := by
    rw [CodePoint.ofText, print, String.toList_ofList, Token.ofPoints?, readOn, Option.bind_some,
      past.finish_eq]
    simp
  have room : ([] : List Frame).length + depth ≤ nestingLimit := by
    rw [List.length_nil, Nat.zero_add]
    exact shallow
  have taken : Reader.run (.value, []) (value.tokens ++ []) = some (.afterValue value, []) :=
    Reader.takes_of_legible legible [] (.inl rfl) room
  rw [List.append_nil] at taken
  rw [ofText?, ofPoints?, tokens, Option.bind_some, ofTokens?, taken]

/-! ## The characters of a document -/

theorem admitsAll_separator {mark : Char} (ascii : 0x20 ≤ mark.toNat ∧ mark.toNat ≤ 0x7E)
    {separator : List Char} (spaced : ∃ count, separator = mark :: List.replicate count ' ') :
    layout.AdmitsAll separator := by
  obtain ⟨count, rfl⟩ := spaced
  have spaces : layout.AdmitsAll (List.replicate count ' ') := by
    intro space spaceMem
    rw [List.eq_of_mem_replicate spaceMem]
    exact .of_isAscii (by decide)
  exact .cons (.of_isAscii ascii) spaces

theorem admitsAll_items (separates : layout.Separates) {items : List Value}
    (each : ∀ item ∈ items, layout.AdmitsAll (Printer.value layout item)) :
    layout.AdmitsAll (Printer.items layout items) := by
  have comma : layout.AdmitsAll layout.betweenItems :=
    admitsAll_separator (by decide) separates.betweenItems
  induction items with
  | nil => exact List.forall_mem_nil _
  | cons item rest ih =>
      have first := each item List.mem_cons_self
      have others := ih fun other otherMem => each other (List.mem_cons_of_mem _ otherMem)
      cases rest with
      | nil => simpa only [Printer.items] using first
      | cons next rest =>
          rw [Printer.items]
          · exact (first.append comma).append others
          · simp

theorem admitsAll_pairs (separates : layout.Separates) {members : List (String × Value)}
    (each : ∀ member ∈ members, layout.AdmitsAll (Printer.value layout member.2)) :
    layout.AdmitsAll (Printer.pairs layout
      (members.map fun member => (CodePoint.ofText member.1, member.2))) := by
  have comma : layout.AdmitsAll layout.betweenItems :=
    admitsAll_separator (by decide) separates.betweenItems
  have colon : layout.AdmitsAll layout.afterName :=
    admitsAll_separator (by decide) separates.afterName
  induction members with
  | nil => exact List.forall_mem_nil _
  | cons member rest ih =>
      have first := ((Printer.admitsAll_string (CodePoint.ofText member.1)).append colon).append
        (each member List.mem_cons_self)
      have others := ih fun other otherMem => each other (List.mem_cons_of_mem _ otherMem)
      cases rest with
      | nil => simpa only [List.map_cons, List.map_nil, Printer.pairs] using first
      | cons next rest =>
          rw [List.map_cons, List.map_cons, Printer.pairs]
          · exact (first.append comma).append others
          · simp

theorem admitsAll_bracket {mark : Char} (ascii : 0x20 ≤ mark.toNat ∧ mark.toNat ≤ 0x7E) :
    layout.AdmitsAll [mark] :=
  .cons (.of_isAscii ascii) (List.forall_mem_nil _)

theorem admitsAll_record (separates : layout.Separates) {members : List (String × Value)}
    (each : ∀ member ∈ members, layout.AdmitsAll (Printer.value layout member.2)) :
    layout.AdmitsAll (Printer.value layout (.record members)) := by
  rw [record, Printer.value]
  exact ((admitsAll_bracket (by decide)).append (admitsAll_pairs separates each)).append
    (admitsAll_bracket (by decide))

theorem admitsAll_integer (number : Int) :
    layout.AdmitsAll (Printer.value layout (.integer number)) := by
  intro digit digitMem
  have position := (Number.Written.isPlain_of_mem_toString digitMem).position
  exact .of_isAscii (by omega)

/-- A legible value is written in the characters of its layout. -/
theorem admitsAll_value (separates : layout.Separates) {depth : Nat}
    (legible : value.Legible depth) : layout.AdmitsAll (Printer.value layout value) := by
  induction legible with
  | null =>
      have admits : layout.AdmitsAll "null".toList := .of_isAscii (by decide)
      exact admits
  | bool depth value =>
      have admits : layout.AdmitsAll "false".toList ∧ layout.AdmitsAll "true".toList :=
        ⟨.of_isAscii (by decide), .of_isAscii (by decide)⟩
      cases value
      · exact admits.1
      · exact admits.2
  | integer => exact admitsAll_integer _
  | text depth source => exact Printer.admitsAll_string (CodePoint.ofText source)
  | array each ih =>
      rw [Printer.value]
      exact ((admitsAll_bracket (by decide)).append (admitsAll_items separates ih)).append
        (admitsAll_bracket (by decide))
  | record each ih => exact admitsAll_record separates ih

/-- A document starts with an ASCII character. -/
theorem head_ascii {depth : Nat} (legible : value.Legible depth) :
    ∀ first ∈ (Printer.value layout value).head?, first.toNat < 0x80 := by
  cases legible with
  | null => simp [Printer.value]
  | bool depth value => cases value <;> simp [Printer.value]
  | integer =>
      intro first isFirst
      have firstMem := List.mem_of_mem_head? isFirst
      have position := (Number.Written.isPlain_of_mem_toString firstMem).position
      omega
  | text depth source => simp [Printer.value, text, Printer.string]
  | array each => simp [Printer.value]
  | record each => simp [record, Printer.value]

/-- A legible value is read again from its bytes. -/
theorem ofBytes?_encode_print [Platform] (separates : layout.Separates) {depth : Nat}
    (legible : value.Legible depth) (shallow : depth ≤ nestingLimit) :
    ofBytes? (Utf8.encode (value.print layout)) = some value := by
  have decoded : Encoding.decodeDetected? (Utf8.encode (value.print layout)) =
      some (CodePoint.ofText (value.print layout)) := by
    apply Utf8.decodeDetected?_encode
    · rw [print, String.toList_ofList]
      exact head_ascii legible
    · rw [print, String.toList_ofList]
      intro character characterMem
      have lower := (admitsAll_value separates legible character characterMem).1
      omega
  rw [ofBytes?, decoded, Option.bind_some]
  exact ofText?_print separates legible shallow

end Value

end FederatedLogin.Json

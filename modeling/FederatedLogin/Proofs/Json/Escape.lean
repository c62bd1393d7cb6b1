import FederatedLogin.Json.Printer
import FederatedLogin.Json.Token
import FederatedLogin.Proofs.Text.Utf8

/-!
# Strings written and read again

A character in a string is written as itself or as an escape, and the lexer takes in either as that
character.  A character beyond U+FFFF is escaped in two halves, which the lexer joins.
-/

namespace FederatedLogin.Json

open FederatedLogin.Text

/-! ## Hexadecimal digits -/

theorem hexValue?_digitChar {digit : Nat} (small : digit < 16) :
    hexValue? digit.digitChar = some digit := by
  have each : ∀ digit < 16, hexValue? (Nat.digitChar digit) = some digit := by decide
  exact each digit small

/-- A unit of sixteen bits is written in four digits. -/
theorem hexDigits_four {unit : Nat} (small : unit < 0x10000) :
    Quoted.hexDigits 4 unit =
      [(unit / 0x1000).digitChar, (unit / 0x100 % 0x10).digitChar, (unit / 0x10 % 0x10).digitChar,
        (unit % 0x10).digitChar] := by
  have oneMore {number : Nat} (large : 16 ≤ number) :
      Nat.toDigits 16 number = Nat.toDigits 16 (number / 16) ++ [(number % 16).digitChar] :=
    Nat.toDigits_of_base_le (by decide) large
  have single {number : Nat} (least : number < 16) : Nat.toDigits 16 number = [number.digitChar] :=
    Nat.toDigits_of_lt_base least
  -- One case per count of digits; the zeros in front make up for the others.
  rw [Quoted.hexDigits]
  by_cases one : unit < 0x10
  · rw [single one, Nat.div_eq_of_lt (by omega),
      Nat.div_eq_of_lt (a := unit) (b := 0x100) (by omega), Nat.div_eq_of_lt one,
      Nat.mod_eq_of_lt one]
    rfl
  · rw [oneMore (by omega)]
    by_cases two : unit < 0x100
    · rw [single (by omega), Nat.div_eq_of_lt (a := unit) (b := 0x1000) (by omega),
        Nat.div_eq_of_lt (a := unit) (b := 0x100) (by omega),
        Nat.mod_eq_of_lt (a := unit / 0x10) (by omega)]
      rfl
    · rw [oneMore (by omega), Nat.div_div_eq_div_mul]
      by_cases three : unit < 0x1000
      · rw [single (by omega), Nat.div_eq_of_lt (a := unit) (b := 0x1000) (by omega),
          Nat.mod_eq_of_lt (a := unit / 0x100) (by omega)]
        rfl
      · rw [oneMore (by omega), Nat.div_div_eq_div_mul, single (by omega)]
        rfl

namespace Token

open Printer

variable {done : List Token} {read : List CodePoint} {half : Option Nat} {rest : List CodePoint}

/-! ## Escapes -/

/-- The lexer takes in the unit that an escape names. -/
theorem run_unitEscape {unit : Nat} (small : unit < 0x10000) :
    run (done, .string read half) ((unitEscape unit).map .char ++ rest) =
      run (done, takeUnit read half unit) rest := by
  have backslash : step (done, .string read half) (.char '\\') = some (done, .escape read half) :=
    rfl
  have letter : step (done, .escape read half) (.char 'u') = some (done, .hex read half 3 0) :=
    rfl
  have next {missing before digit : Nat} (digitSmall : digit < 16) :
      step (done, .hex read half (missing + 1) before) (.char digit.digitChar) =
        some (done, .hex read half missing (before * 16 + digit)) := by
    simp only [step, hexValue?_digitChar digitSmall]
    rfl
  have last {before digit : Nat} (digitSmall : digit < 16) :
      step (done, .hex read half 0 before) (.char digit.digitChar) =
        some (done, takeUnit read half (before * 16 + digit)) := by
    simp only [step, hexValue?_digitChar digitSmall]
    rfl
  have whole : (((0 * 16 + unit / 0x1000) * 16 + unit / 0x100 % 0x10) * 16 + unit / 0x10 % 0x10) *
      16 + unit % 0x10 = unit := by
    omega
  rw [unitEscape, hexDigits_four small]
  simp only [List.map_cons, List.map_nil, List.cons_append, List.nil_append, run, backslash, letter]
  rw [next (by omega)]
  simp only
  rw [next (by omega)]
  simp only
  rw [next (by omega)]
  simp only
  rw [last (by omega), whole]

/-- The escape of a character is taken in as that character. -/
theorem run_positionEscape (value : Char) :
    run (done, .string read none) ((positionEscape value.toNat).map .char ++ rest) =
      run (done, .string (.char value :: read) none) rest := by
  obtain ⟨scalar, bound⟩ := CodePoint.toNat_scalar value
  have point := CodePoint.ofNat?_toNat value
  rw [positionEscape]
  generalize value.toNat = position at scalar bound point
  split
  · next small =>
    have notHigh : Encoding.isHigh position = false := by
      simp only [Encoding.isHigh, Bool.and_eq_false_iff, decide_eq_false_iff_not]
      omega
    have taken : takeUnit read none position = .string (.char value :: read) none := by
      simp only [takeUnit, notHigh, point]
      rfl
    rw [run_unitEscape small, taken]
  · next large =>
    generalize offset_eq : position - 0x10000 = offset
    have high : Encoding.isHigh (0xD800 + offset / 0x400) = true := by
      simp only [Encoding.isHigh, Bool.and_eq_true, decide_eq_true_eq]
      omega
    have low : Encoding.isLow (0xDC00 + offset % 0x400) = true := by
      simp only [Encoding.isLow, Bool.and_eq_true, decide_eq_true_eq]
      omega
    have joined : Encoding.pairPosition (0xD800 + offset / 0x400) (0xDC00 + offset % 0x400) =
        position := by
      unfold Encoding.pairPosition
      omega
    have firstTaken : takeUnit read none (0xD800 + offset / 0x400) =
        .string read (some (0xD800 + offset / 0x400)) := by
      simp only [takeUnit, high, if_true]
    have secondTaken : takeUnit read (some (0xD800 + offset / 0x400)) (0xDC00 + offset % 0x400) =
        .string (.char value :: read) none := by
      simp only [takeUnit, low, if_true, joined, point]
      rfl
    rw [List.map_append, List.append_assoc, run_unitEscape (by omega), firstTaken,
      run_unitEscape (by omega), secondTaken]

/-- A character of a string is taken in, whether it is escaped or not. -/
theorem run_escape (layout : Layout) (value : Char) :
    run (done, .string read none) ((escape layout (.char value)).map .char ++ rest) =
      run (done, .string (.char value :: read) none) rest := by
  rw [escape]
  -- The characters that have an escape of one letter each.
  iterate 7
    split
    · next same =>
      cases same
      rfl
  split
  · exact run_positionEscape value
  · next notQuote notBackslash _ _ _ _ _ plain =>
    have notControl : ¬(CodePoint.char value).toNat < 0x20 := by
      intro control
      exact plain (by simp only [control, decide_true, Bool.true_or])
    simp only [List.map_cons, List.map_nil, List.cons_append, List.nil_append,
      run, step, stepString, if_neg notQuote, if_neg notBackslash, if_neg notControl]
    rfl

/-- A text between its quotes is one token. -/
theorem run_string (layout : Layout) (source : String) :
    run (done, .between) ((string layout (CodePoint.ofText source)).map .char ++ rest) =
      run (.text (CodePoint.ofText source) :: done, .between) rest := by
  have readOn : ∀ (values : List Char) (read : List CodePoint),
      run (done, .string read none)
          (((values.map CodePoint.char).flatMap (escape layout)).map .char ++ .char '"' :: rest) =
        run (.text (read.reverse ++ values.map .char) :: done, .between) rest := by
    intro values
    induction values with
    | nil =>
        intro read
        rw [List.map_nil, List.append_nil]
        rfl
    | cons value values ih =>
        intro read
        rw [List.map_cons, List.flatMap_cons, List.map_append, List.append_assoc, run_escape, ih]
        simp
  have opened : step (done, .between) (.char '"') = some (done, .string [] none) := rfl
  simp only [string, CodePoint.ofText, List.map_append, List.map_cons, List.map_nil,
    List.cons_append, List.append_assoc, List.nil_append, run, opened]
  exact readOn source.toList []

end Token

/-! ## The characters of a string -/

namespace Layout

variable {layout : Layout}

/-- The characters in which a layout writes: no controls, and only printable ASCII if it escapes
everything else. -/
def Admits (layout : Layout) (value : Char) : Prop :=
  0x20 ≤ value.toNat ∧ (layout.escapesNonAscii = true → value.toNat ≤ 0x7E)

/-- What is written in the characters of a layout. -/
def AdmitsAll (layout : Layout) (source : List Char) : Prop :=
  ∀ value ∈ source, layout.Admits value

theorem Admits.of_isAscii {value : Char} (ascii : 0x20 ≤ value.toNat ∧ value.toNat ≤ 0x7E) :
    layout.Admits value :=
  ⟨ascii.1, fun _ => ascii.2⟩

theorem AdmitsAll.of_isAscii {source : List Char}
    (ascii : source.all (fun value => 0x20 ≤ value.toNat && value.toNat ≤ 0x7E) = true) :
    layout.AdmitsAll source := by
  intro value valueMem
  have inRange := List.all_eq_true.mp ascii value valueMem
  rw [Bool.and_eq_true, decide_eq_true_eq, decide_eq_true_eq] at inRange
  exact .of_isAscii inRange

theorem AdmitsAll.append {before after : List Char} (admits : layout.AdmitsAll before)
    (admitsAfter : layout.AdmitsAll after) : layout.AdmitsAll (before ++ after) :=
  List.forall_mem_append.mpr ⟨admits, admitsAfter⟩

theorem AdmitsAll.cons {value : Char} {rest : List Char} (admits : layout.Admits value)
    (admitsRest : layout.AdmitsAll rest) : layout.AdmitsAll (value :: rest) :=
  List.forall_mem_cons.mpr ⟨admits, admitsRest⟩

theorem AdmitsAll.flatMap {Item : Type} {items : List Item} {write : Item → List Char}
    (each : ∀ item ∈ items, layout.AdmitsAll (write item)) :
    layout.AdmitsAll (items.flatMap write) := by
  intro value valueMem
  obtain ⟨item, itemMem, valueIn⟩ := List.mem_flatMap.mp valueMem
  exact each item itemMem value valueIn

end Layout

namespace Printer

variable {layout : Layout}

theorem admitsAll_unitEscape {unit : Nat} (small : unit < 0x10000) :
    layout.AdmitsAll (unitEscape unit) := by
  have digits : ∀ digit < 16, 0x20 ≤ (Nat.digitChar digit).toNat ∧
      (Nat.digitChar digit).toNat ≤ 0x7E := by
    decide
  have admitted {digit : Nat} (digitSmall : digit < 16) : layout.Admits digit.digitChar :=
    .of_isAscii (digits digit digitSmall)
  rw [unitEscape, hexDigits_four small]
  refine .cons (.of_isAscii (by decide)) (.cons (.of_isAscii (by decide)) ?_)
  refine .cons (admitted ?_) (.cons (admitted ?_) (.cons (admitted ?_) (.cons (admitted ?_) ?_)))
  case refine_5 => exact List.forall_mem_nil _
  all_goals omega

theorem admitsAll_positionEscape {position : Nat} (inside : position < 0x110000) :
    layout.AdmitsAll (positionEscape position) := by
  rw [positionEscape]
  split
  · next small => exact admitsAll_unitEscape small
  · exact .append (admitsAll_unitEscape (by omega)) (admitsAll_unitEscape (by omega))

/-- A surrogate is written as an escape, and so is every character that a layout does not admit. -/
theorem admitsAll_escape (point : CodePoint) : layout.AdmitsAll (escape layout point) := by
  rw [escape.eq_def]
  iterate 7
    split
    · exact .of_isAscii (by decide)
  split
  · exact admitsAll_positionEscape point.toNat_lt
  · next plain =>
    cases point with
    | surrogate index => exact admitsAll_positionEscape (CodePoint.surrogate index).toNat_lt
    | char value =>
        simp only [Bool.or_eq_true, decide_eq_true_eq, Bool.and_eq_true, not_or, not_and,
          Nat.not_lt] at plain
        exact .cons plain (List.forall_mem_nil _)

theorem admitsAll_string (points : CodeString) : layout.AdmitsAll (string layout points) := by
  have escapes : layout.AdmitsAll (points.flatMap (escape layout)) :=
    .flatMap fun point _ => admitsAll_escape point
  exact .cons (.of_isAscii (by decide)) (escapes.append (.of_isAscii (by decide)))

end Printer

end FederatedLogin.Json

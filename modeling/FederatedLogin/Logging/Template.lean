import FederatedLogin.Text.Digit

/-!
# Message templates

A template is a text with directives in it.  A directive starts with a percent sign and says which
value is shown and how: a name in parentheses, flags, a width, a precision, and the conversion.
Two percent signs are one that is shown.

Reading a template never fails.  A directive that the end of the template cuts short has no
conversion, and numbers that are too large are remembered as such, so that whoever fills the
template meets each fault in its turn.
-/

namespace FederatedLogin.Logging

open FederatedLogin.Text

/-- Flags of a directive. -/
structure Flags where
  leftAligned : Bool := false
  signed : Bool := false
  spaced : Bool := false
  alternate : Bool := false
  zeroFilled : Bool := false
  deriving DecidableEq, Repr

/-- A width or a precision. -/
inductive Measure where
  | unset
  | given (size : Nat)
  | tooLarge
  /-- The next value says it. -/
  | fromValue
  deriving DecidableEq, Repr

/-- The name in a directive. -/
inductive ValueName where
  | absent
  | present (name : List Char)
  | unclosed
  deriving DecidableEq, Repr

/-- A directive; it has no conversion if the template ends before it. -/
structure Directive where
  name : ValueName
  flags : Flags
  width : Measure
  precision : Measure
  conversion : Option Char
  deriving DecidableEq, Repr

/-- A piece of a template. -/
inductive Piece where
  | literal (value : Char)
  | directive (value : Directive)
  deriving DecidableEq, Repr

namespace Template

/-- The largest width. -/
def maxWidth : Nat :=
  0x7FFFFFFFFFFFFFFF

/-- The largest precision. -/
def maxPrecision : Nat :=
  0x7FFFFFFF

/-- The largest width for which there is memory. -/
def maxShownWidth : Nat :=
  0x40000000

/-- Reads a name up to the parenthesis that closes it; parentheses within it come in pairs. -/
def readName? (depth : Nat) : List Char → Option (List Char × List Char)
  | [] => none
  | ')' :: rest =>
      match depth with
      | 0 => some ([], rest)
      | outer + 1 => (readName? outer rest).map fun (name, rest) => (')' :: name, rest)
  | '(' :: rest => (readName? (depth + 1) rest).map fun (name, rest) => ('(' :: name, rest)
  | value :: rest => (readName? depth rest).map fun (name, rest) => (value :: name, rest)

/-- Reads the name of a directive; without its closing parenthesis it takes all that follows. -/
def readValueName : List Char → ValueName × List Char
  | '(' :: rest =>
      match readName? 0 rest with
      | some (name, rest) => (.present name, rest)
      | none => (.unclosed, [])
  | source => (.absent, source)

/-- Reads flags. -/
def readFlags (flags : Flags) : List Char → Flags × List Char
  | '-' :: rest => readFlags { flags with leftAligned := true } rest
  | '+' :: rest => readFlags { flags with signed := true } rest
  | ' ' :: rest => readFlags { flags with spaced := true } rest
  | '#' :: rest => readFlags { flags with alternate := true } rest
  | '0' :: rest => readFlags { flags with zeroFilled := true } rest
  | source => (flags, source)

/-- Reads a width or a precision. -/
def readMeasure (limit : Nat) : List Char → Measure × List Char
  | '*' :: rest => (.fromValue, rest)
  | source =>
      let digits := source.takeWhile isAsciiDigit
      let size := naturalOfDigits digits
      let measure : Measure :=
        if digits.isEmpty then .unset else if limit < size then .tooLarge else .given size
      (measure, source.dropWhile isAsciiDigit)

/-- Reads a precision, which follows a point; a point alone means zero. -/
def readPrecision : List Char → Measure × List Char
  | '.' :: rest =>
      match readMeasure maxPrecision rest with
      | (.unset, rest) => (.given 0, rest)
      | precise => precise
  | source => (.unset, source)

/-- Drops a letter for the size of a number, which means nothing here. -/
def dropSize : List Char → List Char
  | 'h' :: rest | 'l' :: rest | 'L' :: rest => rest
  | source => source

/-- Reads a directive after its percent sign. -/
def readDirective (source : List Char) : Directive × List Char :=
  let (name, source) := readValueName source
  let (flags, source) := readFlags {} source
  let (width, source) := readMeasure maxWidth source
  let (precision, source) := readPrecision source
  match dropSize source with
  | [] => (⟨name, flags, width, precision, none⟩, [])
  | conversion :: rest => (⟨name, flags, width, precision, some conversion⟩, rest)

theorem length_readName? {depth : Nat} {source name rest : List Char}
    (found : readName? depth source = some (name, rest)) : rest.length ≤ source.length := by
  fun_induction readName? depth source generalizing name rest <;> simp_all <;> grind

theorem length_readValueName (source : List Char) :
    (readValueName source).2.length ≤ source.length := by
  fun_cases readValueName source with
  | case1 rest name after found => simpa using Nat.le_succ_of_le (length_readName? found)
  | case2 => simp
  | case3 => simp

theorem length_readFlags (flags : Flags) (source : List Char) :
    (readFlags flags source).2.length ≤ source.length := by
  fun_induction readFlags flags source <;> simp <;> omega

theorem length_readMeasure (limit : Nat) (source : List Char) :
    (readMeasure limit source).2.length ≤ source.length := by
  fun_cases readMeasure limit source with
  | case1 => simp
  | case2 => simpa using (List.dropWhile_sublist isAsciiDigit).length_le

theorem length_readPrecision (source : List Char) :
    (readPrecision source).2.length ≤ source.length := by
  fun_cases readPrecision source with
  | case1 rest after found =>
      have := length_readMeasure maxPrecision rest
      simp_all
      omega
  | case2 rest =>
      have := length_readMeasure maxPrecision rest
      simp_all
      omega
  | case3 => simp

theorem length_dropSize (source : List Char) : (dropSize source).length ≤ source.length := by
  fun_cases dropSize source <;> simp

/-- A directive is read off the front of a template. -/
theorem length_readDirective (source : List Char) :
    (readDirective source).2.length ≤ source.length := by
  have afterName := length_readValueName source
  have afterFlags := length_readFlags {} (readValueName source).2
  have afterWidth := length_readMeasure maxWidth (readFlags {} (readValueName source).2).2
  have afterPrecision :=
    length_readPrecision (readMeasure maxWidth (readFlags {} (readValueName source).2).2).2
  have afterSize := length_dropSize
    (readPrecision (readMeasure maxWidth (readFlags {} (readValueName source).2).2).2).2
  simp only [readDirective]
  split
  · simp
  · rename_i rest found
    simp only [found, List.length_cons] at afterSize
    change rest.length ≤ source.length
    omega

/-- The pieces of a template. -/
def pieces : List Char → List Piece
  | [] => []
  | '%' :: '%' :: rest => .literal '%' :: pieces rest
  | '%' :: rest => .directive (readDirective rest).1 :: pieces (readDirective rest).2
  | value :: rest => .literal value :: pieces rest
termination_by source => source.length
decreasing_by
  all_goals grind [length_readDirective]

end Template

end FederatedLogin.Logging

import FederatedLogin.Failure
import FederatedLogin.Json.Shown
import FederatedLogin.Logging.Template
import FederatedLogin.Number.Rounded

/-!
# Filled templates

A template takes its values in order.  A single object that is not empty is taken as the values
under its names instead: a directive with a name then shows the value under that name, and one
without shows the whole object.

Every value has to be taken; too few and too many are both a mismatch.  A template can also be
filled with one value that is not in a list; an array may then be left over as well.

What is shown is brought to its width last: spaces before or after it, or zeros between the sign of
a number and its digits.  It is code points, since a number can name any of them.
-/

namespace FederatedLogin.Logging

open FederatedLogin.Json FederatedLogin.Text FederatedLogin.Number

/-- Where directives with a name find their values. -/
inductive Named where
  | nowhere
  | members (members : List Member)
  /-- In an array, whose items have no names. -/
  | items

/-- The values that are still to be taken. -/
structure Supply where
  named : Named
  left : List Value

/-- A part of the work of filling a template. -/
abbrev Filling := StateT Supply (Except Trouble)

/-- What a conversion makes of a value. -/
structure Converted where
  /-- The sign of a number and the mark of its base. -/
  lead : List CodePoint := []
  body : List CodePoint
  isNumber : Bool

namespace Supply

/-- The supply that values make. -/
def ofValues (values : List Value) : Supply :=
  match values with
  | [.object members] => ⟨if members.isEmpty then .nowhere else .members members, values⟩
  | _ => ⟨.nowhere, values⟩

/-- The supply that one value makes. -/
def ofValue (value : Value) : Supply :=
  match value with
  | .object members => ⟨.members members, [value]⟩
  | .array _ => ⟨.items, [value]⟩
  | _ => ⟨.nowhere, [value]⟩

/-- Whether values have names, or could have. -/
def hasNames (supply : Supply) : Bool :=
  match supply.named with
  | .nowhere => false
  | _ => true

/-- Takes the next value. -/
def next : Filling Value := fun supply =>
  match supply.left with
  | value :: left => .ok (value, { supply with left })
  | [] => .error .typeMismatch

/-- Goes to the value under a name. -/
def select (name : ValueName) : Filling Unit := fun supply =>
  match name, supply.named with
  | .absent, _ => .ok ((), supply)
  | _, .nowhere => .error .typeMismatch
  | .unclosed, _ => .error .malformedTemplate
  | .present _, .items => .error .typeMismatch
  | .present name, .members members =>
      match Value.lastUnder? (name.map .char) members with
      | some value => .ok ((), { supply with left := [value] })
      | none => .error .entryMissing

end Supply

namespace Converted

/-- The sign that a number shows. -/
def signOf (flags : Flags) (negative : Bool) : List Char :=
  if negative then ['-'] else if flags.signed then ['+'] else if flags.spaced then [' '] else []

/-- A text in which letters are capital or not. -/
def cased (capital : Bool) (source : List Char) : List Char :=
  if capital then source.map Char.toUpper else source

/-- A text, cut to the precision. -/
def ofText (precision : Option Nat) (shown : CodeString) : Converted :=
  { body := (precision.map shown.take).getD shown, isNumber := false }

/-- A number with what stands before its digits. -/
def ofNumber (lead body : List Char) : Converted :=
  { lead := lead.map .char, body := body.map .char, isNumber := true }

/-- The integer that a value stands for.  A real number loses its fraction, if it may. -/
def wholeOf (mayTruncate : Bool) : Value → Except Trouble Int
  | .integer number => .ok number
  | .bool value => .ok (if value then 1 else 0)
  | .real number =>
      let magnitude := Binary64.magnitude number
      if !mayTruncate then .error .typeMismatch
      else if Binary64.infinityBits < magnitude then .error .malformedValue
      else if Binary64.infinityBits = magnitude then .error .integerTooLarge
      else
        let (numerator, denominator) := Shortest.quotient magnitude
        let whole : Nat := numerator / denominator
        .ok (if Binary64.isNegative number then -whole else whole)
  | _ => .error .typeMismatch

/-- The base of an integer conversion. -/
def baseOf (letter : Char) : Nat :=
  if letter = 'o' then 8 else if letter = 'x' ∨ letter = 'X' then 16 else 10

/-- The most digits that can be asked of an integer. -/
def maxWholeDigits : Nat :=
  Template.maxPrecision - 3

/-- An integer with at least as many digits as the precision. -/
def ofWhole (flags : Flags) (precision : Option Nat) (letter : Char) (number : Int) :
    Except Trouble Converted :=
  let base := baseOf letter
  let digits := Nat.toDigits base number.natAbs
  let mark := if flags.alternate ∧ base ≠ 10 then ['0', letter] else []
  let size := precision.getD 0
  if maxWholeDigits < size then .error .integerTooLarge
  else
    .ok (ofNumber (signOf flags (number < 0) ++ mark)
      (List.replicate (size - digits.length) '0' ++ cased (letter = 'X') digits))

/-- The real number that a value stands for. -/
def realOf : Value → Except Trouble Float
  | .real number => .ok number
  | .integer number =>
      let magnitude := Binary64.nearest number.natAbs 1
      if magnitude = Binary64.infinityBits then .error .integerTooLarge
      else .ok (Binary64.signed (number < 0) magnitude)
  | .bool value => .ok (if value then 1.0 else 0.0)
  | _ => .error .typeMismatch

/-- A real number in the notation of a conversion, with six places or digits if no precision says
otherwise.  In scientific notation the largest precision leaves no room for the first digit, and no
places are shown. -/
def ofReal (flags : Flags) (precision : Option Nat) (letter : Char) (number : Float) : Converted :=
  let magnitude := Binary64.magnitude number
  let size := precision.getD 6
  let body :=
    if Binary64.infinityBits < magnitude then "nan".toList
    else if Binary64.infinityBits = magnitude then "inf".toList
    else
      match letter.toLower with
      | 'e' =>
          let places := if size = Template.maxPrecision then 0 else size
          Rounded.scientific places flags.alternate magnitude
      | 'f' => Rounded.fixed size flags.alternate magnitude
      | _ => Rounded.general size flags.alternate magnitude
  let negative := Binary64.isNegative number && magnitude ≤ Binary64.infinityBits
  ofNumber (signOf flags negative) (cased letter.isUpper body)

/-- The code point that a value stands for: a text of one, or one by its position. -/
def codePointOf : Value → Except Trouble CodePoint
  | .string [point] => .ok point
  | .integer number => ofPosition number
  | .bool value => ofPosition (if value then 1 else 0)
  | _ => .error .typeMismatch
where
  /-- The code point at a position of the code space. -/
  ofPosition (position : Int) : Except Trouble CodePoint :=
    match CodePoint.ofNat? position.toNat with
    | some point => if position < 0 then .error .integerTooLarge else .ok point
    | none => .error .integerTooLarge

/-- Converts a value. -/
def ofValue (flags : Flags) (precision : Option Nat) (letter : Char) (value : Value) :
    Except Trouble Converted :=
  match letter with
  | 's' => .ok (ofText precision (Shown.plain value))
  | 'r' => .ok (ofText precision (Shown.nested value))
  | 'a' => .ok (ofText precision ((Quoted.toAscii (Shown.nested value).toList).map .char))
  | 'd' | 'i' | 'u' => do ofWhole flags precision letter (← wholeOf true value)
  | 'o' | 'x' | 'X' => do ofWhole flags precision letter (← wholeOf false value)
  | 'e' | 'E' | 'f' | 'F' | 'g' | 'G' => (realOf value).map (ofReal flags precision letter)
  | 'c' => (codePointOf value).map fun point => { body := [point], isNumber := false }
  | _ => .error .malformedTemplate

/-- Brings what is shown to a width. -/
def padded (flags : Flags) (width : Nat) (converted : Converted) : List CodePoint :=
  let shown := converted.lead ++ converted.body
  let missing := width - shown.length
  if flags.leftAligned then shown ++ List.replicate missing (.char ' ')
  else if flags.zeroFilled && converted.isNumber then
    converted.lead ++ List.replicate missing (.char '0') ++ converted.body
  else List.replicate missing (.char ' ') ++ shown

end Converted

namespace Directive

/-- The integer that the next value says, if it is as large as a limit allows.  Below zero there is
room for one more. -/
def nextSize (limit : Nat) : Filling Int := do
  let value ← Supply.next
  let size ← match value with
    | .integer number => pure number
    | .bool value => pure (if value then 1 else 0)
    | _ => throw .typeMismatch
  if -limit - 1 ≤ size ∧ size ≤ limit then return size else throw .integerTooLarge

/-- The width and the flags; a negative width aligns to the left.  The least integer has no opposite
and stands for no width. -/
def takeWidth (directive : Directive) : Filling (Nat × Flags) := do
  match directive.width with
  | .unset => return (0, directive.flags)
  | .given size => return (size, directive.flags)
  | .tooLarge => throw .malformedTemplate
  | .fromValue =>
      let size ← nextSize Template.maxWidth
      let flags := directive.flags
      let width := if size.natAbs ≤ Template.maxWidth then size.natAbs else 0
      return (width, if size < 0 then { flags with leftAligned := true } else flags)

/-- The precision; a negative one counts as zero. -/
def takePrecision (directive : Directive) : Filling (Option Nat) := do
  match directive.precision with
  | .unset => return none
  | .given size => return some size
  | .tooLarge => throw .malformedTemplate
  | .fromValue => return some (← nextSize Template.maxPrecision).toNat

/-- Shows what a directive asks for. -/
def shown (directive : Directive) : Filling (List CodePoint) := do
  Supply.select directive.name
  let (width, flags) ← directive.takeWidth
  let precision ← directive.takePrecision
  match directive.conversion with
  | none => throw .malformedTemplate
  | some letter =>
      let value ← Supply.next
      let converted ← Converted.ofValue flags precision letter value
      if Template.maxShownWidth < width then throw .textTooLong
      return converted.padded flags width

/-- Fills a directive.  What goes by names takes the value it went to. -/
def fill (directive : Directive) : Filling (List CodePoint) := do
  let shown ← directive.shown
  let supply ← get
  if supply.hasNames && !supply.left.isEmpty then throw .typeMismatch else return shown

end Directive

namespace Template

/-- Fills the pieces of a template. -/
def fillPieces : List Piece → Filling (List CodePoint)
  | [] => return []
  | .literal value :: rest => return .char value :: (← fillPieces rest)
  | .directive directive :: rest => do
      let shown ← directive.fill
      return shown ++ (← fillPieces rest)

/-- A template filled from a supply. -/
def filled (template : String) (supply : Supply) : Except Trouble (List CodePoint) := do
  let (shown, rest) ← (fillPieces (pieces template.toList)).run supply
  if !rest.hasNames && !rest.left.isEmpty then throw .typeMismatch else return shown

/-- The code points of a message.  Without values it is the template as it stands. -/
def message (template : String) (values : List Value) : Except Trouble (List CodePoint) :=
  if values.isEmpty then .ok (CodePoint.ofText template)
  else filled template (Supply.ofValues values)

@[simp]
theorem message_nil (template : String) : message template [] = .ok (CodePoint.ofText template) :=
  rfl

end Template

end FederatedLogin.Logging

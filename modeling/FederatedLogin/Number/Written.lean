import FederatedLogin.Number.Binary64
import FederatedLogin.Text.Blank
import FederatedLogin.Text.Digit

/-!
# Numbers as people write them

Settings and ports hold numbers in a liberal notation: blanks around the number, a sign, the decimal
digits of any script, and single underscores between digits.  A real number may have a fraction and
an exponent, or be one of the names for infinity and for no number at all.

Integers of more than 4300 digits are refused.
-/

namespace FederatedLogin.Number.Written

open FederatedLogin.Text

/-- How many digits an integer may have. -/
def maxDigits : Nat :=
  4300

/-- The ASCII digit of a decimal digit; every other character stays. -/
def asciiDigit (value : Char) : Char :=
  match digitValue? value with
  | some digit => Char.ofNat ('0'.toNat + digit)
  | none => value

/-- Drops the underscores of a text whose every underscore stands between two digits. -/
def joined? (afterDigit : Bool) : List Char → Option (List Char)
  | [] => some []
  | value :: rest =>
      if value = '_' then
        if afterDigit && (rest.head?.any isAsciiDigit) then joined? false rest else none
      else
        (joined? (isAsciiDigit value) rest).map (value :: ·)

/-- The characters of a number with its blanks, scripts and underscores out of the way. -/
def plain? (source : String) : Option (List Char) :=
  joined? false ((trimWhile isNumberBlank source.toList).map asciiDigit)

/-- Takes a sign off a number. -/
def splitSign : List Char → Bool × List Char
  | '+' :: rest => (false, rest)
  | '-' :: rest => (true, rest)
  | rest => (false, rest)

/-- The integer that a text writes. -/
def integer? (source : String) : Option Int := do
  let (negative, digits) := splitSign (← plain? source)
  if digits.isEmpty || !digits.all isAsciiDigit || digits.length > maxDigits then none
  else
    let magnitude : Int := naturalOfDigits digits
    some (if negative then -magnitude else magnitude)

/-- The exponent after the digits of a real number; nothing at all is the exponent zero. -/
def exponent? : List Char → Option Int
  | [] => some 0
  | mark :: rest =>
      let (negative, digits) := splitSign rest
      if (mark = 'e' ∨ mark = 'E') ∧ !digits.isEmpty ∧ digits.all isAsciiDigit then
        let magnitude : Int := naturalOfDigits digits
        some (if negative then -magnitude else magnitude)
      else
        none

/-- The fraction of a real number, and what follows it. -/
def splitFraction : List Char → List Char × List Char
  | '.' :: rest => (rest.takeWhile isAsciiDigit, rest.dropWhile isAsciiDigit)
  | rest => ([], rest)

/-- The number that digits, a fraction and an exponent write. -/
def decimal? (negative : Bool) (source : List Char) : Option Float := do
  let whole := source.takeWhile isAsciiDigit
  let (fraction, rest) := splitFraction (source.dropWhile isAsciiDigit)
  if whole.isEmpty && fraction.isEmpty then none
  else
    let exponent ← exponent? rest
    some (Binary64.ofDecimal negative (naturalOfDigits (whole ++ fraction))
      (exponent - fraction.length))

/-- The real number that a text writes. -/
def real? (source : String) : Option Float := do
  let (negative, magnitude) := splitSign (← plain? source)
  let name := String.ofList (magnitude.map Char.toLower)
  if name = "inf" ∨ name = "infinity" then
    some (Binary64.signed negative Binary64.infinityBits)
  else if name = "nan" then
    some (Binary64.signed negative 0x7FF8000000000000)
  else
    decimal? negative magnitude

example : integer? " +8_0\u3000" = some 80 ∧ integer? "٨٠" = some 80 := by decide +kernel
example : integer? "8__0" = none ∧ integer? "" = none ∧ integer? "\u001C80" = none := by
  decide +kernel

end FederatedLogin.Number.Written

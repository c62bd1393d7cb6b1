import FederatedLogin.Number.Shortest

/-!
# Numbers with a given number of digits

A binary64 number is exact, so it can be rounded at any decimal place; a tie goes to the even
digit.  Three notations are in use: a fixed number of places, scientific notation with a fixed
number of places, and a general one that has a fixed number of digits and takes whichever of the
two is fitting.
-/

namespace FederatedLogin.Number.Rounded

open FederatedLogin.Number.Binary64 FederatedLogin.Number.Shortest

/-- The digits of a number, at least `width` of them. -/
def paddedDigits (width number : Nat) : List Char :=
  let digits := Nat.toDigits 10 number
  List.replicate (width - digits.length) '0' ++ digits

/-- Digits with a point before the last `places`.  Where no places follow, the point stands only if
it is kept. -/
def pointed (places : Nat) (keepsPoint : Bool) (digits : List Char) : List Char :=
  let whole := digits.length - places
  if places = 0 then digits ++ (if keepsPoint then ['.'] else [])
  else digits.take whole ++ '.' :: digits.drop whole

/-- No number has more places: the least positive one is `2⁻¹⁰⁷⁴`. -/
def maxPlaces : Nat :=
  1074

/-- A number rounded to a number of places. -/
def fixed (places : Nat) (keepsPoint : Bool) (magnitude : Nat) : List Char :=
  let (numerator, denominator) := quotient magnitude
  let used := min places maxPlaces
  let digits := paddedDigits (used + 1) (roundQuotient (numerator * Nat.pow 10 used) denominator)
  pointed places keepsPoint (digits ++ List.replicate (places - used) '0')

/-- No number has more digits from the first that is not zero to the last. -/
def maxDigits : Nat :=
  767

/-- A number rounded to `count` digits, with the exponent of the first of them.  Rounding may carry
into a further digit; the exponent then grows by one. -/
def significant (count magnitude : Nat) : List Char × Int :=
  if magnitude = 0 then (List.replicate count '0', 0)
  else
    let (numerator, denominator) := quotient magnitude
    let leading := leadingExponent numerator denominator
    let (up, down) := powerOfTen (leading - (count - 1 : Nat))
    let digits := Nat.toDigits 10 (roundQuotient (numerator * down) (denominator * up))
    if digits.length = count then (digits, leading) else (digits.take count, leading + 1)

/-- Scientific notation of digits. -/
def withExponent (keepsPoint : Bool) (digits : List Char) (exponent : Int) : List Char :=
  pointed (digits.length - 1) keepsPoint digits ++ 'e' :: exponentText exponent

/-- A number in scientific notation, rounded to a number of places. -/
def scientific (places : Nat) (keepsPoint : Bool) (magnitude : Nat) : List Char :=
  let used := min (places + 1) maxDigits
  let (digits, exponent) := significant used magnitude
  withExponent keepsPoint (digits ++ List.replicate (places + 1 - used) '0') exponent

/-- Digits without the zeros at their end; the first digit always stays. -/
def withoutEndZeros (digits : List Char) : List Char :=
  match (digits.reverse.dropWhile (· == '0')).reverse with
  | [] => digits.take 1
  | kept => kept

/-- A number rounded to a number of digits, positional from `10⁻⁴` up to below the power of ten that
has one digit more, and scientific elsewhere.  Zeros at the end are dropped, unless the point is
kept. -/
def general (precision : Nat) (keepsPoint : Bool) (magnitude : Nat) : List Char :=
  let count := max 1 precision
  let used := min count maxDigits
  let (rounded, exponent) := significant used magnitude
  let digits :=
    if keepsPoint then rounded ++ List.replicate (count - used) '0' else withoutEndZeros rounded
  if -4 ≤ exponent ∧ exponent < count then
    if exponent < 0 then
      "0.".toList ++ List.replicate (-exponent - 1).toNat '0' ++ digits
    else
      let whole := exponent.toNat + 1
      let padded := digits ++ List.replicate (whole - digits.length) '0'
      pointed (padded.length - whole) keepsPoint padded
  else withExponent keepsPoint digits exponent

example : fixed 1 false (nearestDecimal 25 (-2)) = "0.2".toList ∧
    fixed 0 true (nearestDecimal 25 (-1)) = "2.".toList := by decide +kernel
example : scientific 2 false (nearestDecimal 9999 0) = "1.00e+04".toList := by decide +kernel
example : general 6 false (nearestDecimal 1 5) = "100000".toList ∧
    general 6 false (nearestDecimal 1 6) = "1e+06".toList ∧
    general 3 true (nearestDecimal 1 (-4)) = "0.000100".toList := by decide +kernel

end FederatedLogin.Number.Rounded

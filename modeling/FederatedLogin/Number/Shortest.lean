import FederatedLogin.Number.Binary64

/-!
# The shortest decimal that reads back

A binary64 number is written with as few digits as possible, provided that the decimal rounds back
to the same number.  Of the decimals with that many digits, the one nearest to the number is taken.

A grid of decimals with a given number of digits has two points next to the number.  If any point
of the grid reads back, one of these two does, so the first grid with a hit decides.
-/

namespace FederatedLogin.Number.Shortest

open FederatedLogin.Number.Binary64

/-- A decimal `digits * 10 ^ scale`. -/
structure Decimal where
  digits : Nat
  scale : Int
  deriving DecidableEq, Repr

/-- A power of ten as a quotient. -/
def powerOfTen (exponent : Int) : Nat × Nat :=
  if 0 ≤ exponent then (Nat.pow 10 exponent.toNat, 1) else (1, Nat.pow 10 (-exponent).toNat)

/-- Whether `10 ^ exponent` is at most `numerator / denominator`. -/
def tenPowerLe (exponent : Int) (numerator denominator : Nat) : Bool :=
  let (up, down) := powerOfTen exponent
  up * denominator ≤ numerator * down

/-- The exponent of the first decimal digit of a positive quotient. -/
def leadingExponent (numerator denominator : Nat) : Int :=
  let guess := ((numerator.log2 : Int) - denominator.log2) * 30103 / 100000 + 1
  if tenPowerLe guess numerator denominator then guess
  else if tenPowerLe (guess - 1) numerator denominator then guess - 1
  else guess - 2

/-- A positive finite number as a quotient. -/
def quotient (magnitude : Nat) : Nat × Nat :=
  let number := parts magnitude
  let (up, down) := powerOfTwo number.exponent
  (number.significand * up, down)

/-- The neighbour on the grid of step `10 ^ scale` that reads back, the nearer of two. -/
def onGrid? (magnitude : Nat) (scale : Int) : Option Decimal :=
  let (numerator, denominator) := quotient magnitude
  let (up, down) := powerOfTen scale
  let below := numerator * down / (denominator * up)
  let rest := 2 * (numerator * down % (denominator * up))
  let above := below + 1
  let belowReads := nearestDecimal below scale == magnitude
  let aboveReads := nearestDecimal above scale == magnitude
  if belowReads && aboveReads then
    if rest < denominator * up || (rest == denominator * up && below % 2 == 0) then
      some ⟨below, scale⟩
    else
      some ⟨above, scale⟩
  else if belowReads then some ⟨below, scale⟩
  else if aboveReads then some ⟨above, scale⟩
  else none

/-- The shortest decimal of a positive finite number; seventeen digits always suffice. -/
def ofMagnitude (magnitude : Nat) : Decimal :=
  let (numerator, denominator) := quotient magnitude
  let leading := leadingExponent numerator denominator
  ((List.range 17).findSome? fun (places : Nat) => onGrid? magnitude (leading - places)).getD ⟨0, 0⟩

/-- The digits of a decimal without the zeros at its end, and the exponent of the first digit. -/
def digitsAndExponent (decimal : Decimal) : List Char × Int :=
  let digits := Nat.toDigits 10 decimal.digits
  let kept := (digits.reverse.dropWhile (· == '0')).reverse
  (kept, decimal.scale + digits.length - 1)

/-- The exponent of scientific notation: a sign and at least two digits. -/
def exponentText (exponent : Int) : List Char :=
  let digits := Nat.toDigits 10 exponent.natAbs
  (if exponent < 0 then '-' else '+') :: (if digits.length < 2 then '0' :: digits else digits)

/-- The text of a positive finite number: positional from `10⁻⁴` up to below `10¹⁶`, always with a
fraction, and scientific elsewhere. -/
def textOfMagnitude (magnitude : Nat) : List Char :=
  if magnitude = 0 then "0.0".toList
  else
    let (digits, exponent) := digitsAndExponent (ofMagnitude magnitude)
    if -4 ≤ exponent ∧ exponent < 16 then
      if exponent < 0 then
        "0.".toList ++ List.replicate (-exponent - 1).toNat '0' ++ digits
      else
        let whole := exponent.toNat + 1
        let padded := digits ++ List.replicate (whole - digits.length) '0'
        let fraction := padded.drop whole
        padded.take whole ++ '.' :: (if fraction.isEmpty then ['0'] else fraction)
    else
      let fraction := digits.drop 1
      digits.take 1 ++ (if fraction.isEmpty then [] else '.' :: fraction) ++
        'e' :: exponentText exponent

/-- The shortest text of a number that reads back. -/
def text (value : Float) : String :=
  let bits := magnitude value
  if infinityBits < bits then "nan"
  else
    let body := if bits = infinityBits then "inf".toList else textOfMagnitude bits
    String.ofList (if isNegative value then '-' :: body else body)

example : textOfMagnitude (nearestDecimal 1 (-1)) = "0.1".toList := by decide +kernel
example : textOfMagnitude (nearestDecimal 15 15) = "1.5e+16".toList := by decide +kernel
example : textOfMagnitude (nearestDecimal 1 15) = "1000000000000000.0".toList := by decide +kernel
example : textOfMagnitude (nearestDecimal 1 (-5)) = "1e-05".toList := by decide +kernel
example : textOfMagnitude 1 = "5e-324".toList := by decide +kernel

end FederatedLogin.Number.Shortest

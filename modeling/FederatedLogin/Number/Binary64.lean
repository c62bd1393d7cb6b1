/-!
# Binary64 numbers in exact arithmetic

A positive finite binary64 number is `significand * 2 ^ exponent`.  This module takes numbers apart
into that form, and rounds an arbitrary positive quotient of natural numbers to the nearest number,
a tie going to the even significand.  Everything is computed on natural numbers; `Float` appears
only as the sixty-four bits.
-/

namespace FederatedLogin.Number.Binary64

/-- The bits of positive infinity. -/
def infinityBits : Nat :=
  0x7FF0000000000000

/-- The bit of the sign. -/
def signBit : Nat :=
  0x8000000000000000

/-- How many fractions there are; the significand of a normal number has one bit more. -/
def fractionCount : Nat :=
  0x10000000000000

/-- A positive finite number as `significand * 2 ^ exponent`. -/
structure Parts where
  significand : Nat
  exponent : Int
  deriving DecidableEq, Repr

/-- The parts of a number without its sign; meaningful below `infinityBits`. -/
def parts (magnitude : Nat) : Parts :=
  let biased : Nat := magnitude / fractionCount
  let fraction : Nat := magnitude % fractionCount
  if biased = 0 then ⟨fraction, -1074⟩ else ⟨fractionCount + fraction, (biased : Int) - 1075⟩

/-- A power of two as a quotient. -/
def powerOfTwo (exponent : Int) : Nat × Nat :=
  if 0 ≤ exponent then (Nat.pow 2 exponent.toNat, 1) else (1, Nat.pow 2 (-exponent).toNat)

/-- Whether `2 ^ exponent` is at most `numerator / denominator`. -/
def powerLe (exponent : Int) (numerator denominator : Nat) : Bool :=
  let (up, down) := powerOfTwo exponent
  up * denominator ≤ numerator * down

/-- The quotient of two natural numbers rounded to the nearest integer, a tie to the even one. -/
def roundQuotient (numerator denominator : Nat) : Nat :=
  let quotient := numerator / denominator
  let rest := 2 * (numerator % denominator)
  if rest < denominator then quotient
  else if rest > denominator then quotient + 1
  else quotient + quotient % 2

/-- The exponent of the last bit that a number near `numerator / denominator` can have. -/
def lastBitExponent (numerator denominator : Nat) : Int :=
  let guess : Int := (numerator.log2 : Int) - denominator.log2
  let top := if powerLe guess numerator denominator then guess else guess - 1
  max (top - 52) (-1074)

/-- The bits of the number nearest to a quotient of natural numbers. -/
def nearest (numerator denominator : Nat) : Nat :=
  if numerator = 0 ∨ denominator = 0 then 0
  else
    let exponent := lastBitExponent numerator denominator
    let (up, down) := powerOfTwo exponent
    let significand := roundQuotient (numerator * down) (denominator * up)
    if significand < fractionCount then significand
    else
      let bits := (exponent + 1075).toNat * fractionCount + (significand - fractionCount)
      min bits infinityBits

/-- A decimal logarithm of a positive natural number, exact enough to tell numbers apart that lie
far outside the range of exponents. -/
def roughLog10 (number : Nat) : Int :=
  number.log2 * 30103 / 100000

/-- The bits of the number nearest to `digits * 10 ^ scale`.  What lies far outside the range of
exponents is settled first, so the powers stay small. -/
def nearestDecimal (digits : Nat) (scale : Int) : Nat :=
  if digits = 0 then 0
  else
    let size := scale + roughLog10 digits
    if size > 400 then infinityBits
    else if size < -400 then 0
    else if 0 ≤ scale then nearest (digits * Nat.pow 10 scale.toNat) 1
    else nearest digits (Nat.pow 10 (-scale).toNat)

/-- The number with a sign and the bits of its magnitude. -/
def signed (negative : Bool) (magnitude : Nat) : Float :=
  Float.ofBits (UInt64.ofNat (if negative then signBit + magnitude else magnitude))

/-- The number nearest to a decimal. -/
def ofDecimal (negative : Bool) (digits : Nat) (scale : Int) : Float :=
  signed negative (nearestDecimal digits scale)

/-- Whether the sign of a number is negative. -/
def isNegative (value : Float) : Bool :=
  signBit ≤ value.toBits.toNat

/-- The bits of a number without its sign. -/
def magnitude (value : Float) : Nat :=
  value.toBits.toNat % signBit

/-- The sixteen hexadecimal digits of a number, the sign first. -/
def hex (value : Float) : String :=
  let digits := Nat.toDigits 16 value.toBits.toNat
  String.ofList (List.replicate (16 - digits.length) '0' ++ digits)

example : nearestDecimal 10 0 = 0x4024000000000000 := by decide +kernel
example : nearestDecimal 900719925474099300001 (-5) = nearestDecimal 9007199254740994 0 := by
  decide +kernel
example : nearestDecimal 5 (-324) = 1 ∧ nearestDecimal 2 (-324) = 0 := by decide +kernel
example : nearestDecimal 17976931348623159 292 = infinityBits := by decide +kernel

end FederatedLogin.Number.Binary64

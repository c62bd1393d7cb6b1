/-!
# Decimal digits

Every script with decimal digits has its ten in a row, from zero to nine, so the zeros name them
all.
-/

namespace FederatedLogin.Text

/-- The positions of the digits zero, ascending. -/
def zeroPositions : List Nat :=
  [0x30, 0x660, 0x6F0, 0x7C0, 0x966, 0x9E6, 0xA66, 0xAE6, 0xB66, 0xBE6, 0xC66, 0xCE6, 0xD66,
   0xDE6, 0xE50, 0xED0, 0xF20, 0x1040, 0x1090, 0x17E0, 0x1810, 0x1946, 0x19D0, 0x1A80, 0x1A90,
   0x1B50, 0x1BB0, 0x1C40, 0x1C50, 0xA620, 0xA8D0, 0xA900, 0xA9D0, 0xA9F0, 0xAA50, 0xABF0, 0xFF10,
   0x104A0, 0x10D30, 0x11066, 0x110F0, 0x11136, 0x111D0, 0x112F0, 0x11450, 0x114D0, 0x11650,
   0x116C0, 0x11730, 0x118E0, 0x11950, 0x11C50, 0x11D50, 0x11DA0, 0x16A60, 0x16AC0, 0x16B50,
   0x1D7CE, 0x1D7D8, 0x1D7E2, 0x1D7EC, 0x1D7F6, 0x1E140, 0x1E2F0, 0x1E950, 0x1FBF0]

/-- The value of a decimal digit of any script. -/
def digitValue? (value : Char) : Option Nat :=
  (zeroPositions.find? fun start => start ≤ value.toNat && value.toNat ≤ start + 9).map
    fun start => value.toNat - start

/-- Whether a character is one of the ten ASCII digits. -/
def isAsciiDigit (value : Char) : Bool :=
  '0' ≤ value && value ≤ '9'

/-- The value of an ASCII digit. -/
def asciiDigitValue (value : Char) : Nat :=
  value.toNat - '0'.toNat

/-- The value of a hexadecimal digit. -/
def hexValue? (value : Char) : Option Nat :=
  if '0' ≤ value ∧ value ≤ '9' then some (value.toNat - '0'.toNat)
  else if 'a' ≤ value ∧ value ≤ 'f' then some (value.toNat - 'a'.toNat + 10)
  else if 'A' ≤ value ∧ value ≤ 'F' then some (value.toNat - 'A'.toNat + 10)
  else none

/-- The number that ASCII digits write in base ten. -/
def naturalOfDigits (digits : List Char) : Nat :=
  digits.foldl (fun number digit => number * 10 + asciiDigitValue digit) 0

example : digitValue? '7' = some 7 ∧ digitValue? '٣' = some 3 ∧ digitValue? 'x' = none := by
  decide +kernel

end FederatedLogin.Text

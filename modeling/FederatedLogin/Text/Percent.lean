import FederatedLogin.Text.Digit
import FederatedLogin.Text.Utf8

/-!
# Percent encoding

A percent sign and two hexadecimal digits stand for one byte.  A percent sign without two digits
after it stands for itself, so every text can be decoded.  The bytes are read as UTF-8 in the
forgiving way.
-/

namespace FederatedLogin.Text.Percent

/-- The percent sign. -/
def sign : UInt8 :=
  0x25

/-- The byte that two hexadecimal digits write. -/
def byte? (high low : UInt8) : Option UInt8 :=
  match hexValue? (Char.ofNat high.toNat), hexValue? (Char.ofNat low.toNat) with
  | some high, some low => some (UInt8.ofNat (high * 16 + low))
  | _, _ => none

/-- The bytes that percent-encoded bytes stand for. -/
def decodeBytes : List UInt8 → List UInt8
  | first :: high :: low :: rest =>
      match if first = sign then byte? high low else none with
      | some byte => byte :: decodeBytes rest
      | none => first :: decodeBytes (high :: low :: rest)
  | bytes => bytes

/-- The text that a percent-encoded text stands for. -/
def decode (source : List Char) : String :=
  Utf8.decodeReplacing (decodeBytes (Utf8.encode (String.ofList source)))

example : decode "a%2Fb%C3%A9é%E9%".toList = "a/béé\uFFFD%" := by decide +kernel
example : decode "%zz%4".toList = "%zz%4" := by decide +kernel

end FederatedLogin.Text.Percent

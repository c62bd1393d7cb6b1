/-!
# Base64

Bytes are written with letters for six bits each, in groups of four, the last of which may be filled
up.  Blanks may stand anywhere, and a hyphen ends the letters, whatever follows it.
-/

namespace FederatedLogin.Certificate.Base64

/-- The value of a letter. -/
def letterValue? (value : Char) : Option Nat :=
  if 'A' ≤ value ∧ value ≤ 'Z' then some (value.toNat - 'A'.toNat)
  else if 'a' ≤ value ∧ value ≤ 'z' then some (value.toNat - 'a'.toNat + 26)
  else if '0' ≤ value ∧ value ≤ '9' then some (value.toNat - '0'.toNat + 52)
  else if value = '+' then some 62
  else if value = '/' then some 63
  else none

/-- The bytes of letters in groups of four, after the bytes read so far, last first; the last group
may be filled up. -/
def decodeGroups? : List UInt8 → List Char → Option (List UInt8)
  | done, [] => some done.reverse
  | done, [first, second, '=', '='] => do
      let bits := (← letterValue? first) * 64 + (← letterValue? second)
      return (UInt8.ofNat (bits / 16) :: done).reverse
  | done, [first, second, third, '='] => do
      let bits := ((← letterValue? first) * 64 + (← letterValue? second)) * 64 +
        (← letterValue? third)
      return (UInt8.ofNat (bits / 4) :: UInt8.ofNat (bits / 1024) :: done).reverse
  | done, first :: second :: third :: fourth :: rest =>
      match letterValue? first, letterValue? second, letterValue? third, letterValue? fourth with
      | some first, some second, some third, some fourth =>
          let bits := ((first * 64 + second) * 64 + third) * 64 + fourth
          let later := UInt8.ofNat (bits / 256) :: UInt8.ofNat (bits / 65536) :: done
          decodeGroups? (UInt8.ofNat bits :: later) rest
      | _, _, _, _ => none
  | _, _ => none

/-- The bytes that are written in base64, if each character has its place. -/
def decode? (source : List UInt8) : Option (List UInt8) :=
  let characters := source.map fun byte => Char.ofNat byte.toNat
  decodeGroups? [] ((characters.takeWhile (· != '-')).filter fun value => !value.isWhitespace)

example : decode? ("AQ ID\nBA==--x".toList.map fun value => UInt8.ofNat value.toNat) =
    some [1, 2, 3, 4] := by
  decide +kernel

end FederatedLogin.Certificate.Base64

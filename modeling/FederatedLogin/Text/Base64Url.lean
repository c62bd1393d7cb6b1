/-!
# Base64url without padding

Three bytes are written as four letters of a 64-letter alphabet.  A last group of one or two bytes
is written as two or three letters, and nothing fills it up.
-/

namespace FederatedLogin.Text.Base64Url

/-- The letter for a number below 64. -/
def letter (index : Nat) : Char :=
  if index < 26 then Char.ofNat ('A'.toNat + index)
  else if index < 52 then Char.ofNat ('a'.toNat + (index - 26))
  else if index < 62 then Char.ofNat ('0'.toNat + (index - 52))
  else if index = 62 then '-'
  else '_'

/-- The letters of a string of bytes. -/
def encode : List UInt8 → List Char
  | [] => []
  | [first] =>
      let bits := first.toNat * 16
      [letter (bits / 64), letter (bits % 64)]
  | [first, second] =>
      let bits := (first.toNat * 256 + second.toNat) * 4
      [letter (bits / 4096), letter (bits / 64 % 64), letter (bits % 64)]
  | first :: second :: third :: rest =>
      let bits := (first.toNat * 256 + second.toNat) * 256 + third.toNat
      letter (bits / 262144) :: letter (bits / 4096 % 64) :: letter (bits / 64 % 64) ::
        letter (bits % 64) :: encode rest

/-- Every byte takes eight bits, every letter holds six. -/
theorem length_encode (bytes : List UInt8) :
    (encode bytes).length = (4 * bytes.length + 2) / 3 := by
  fun_induction encode bytes <;> simp_all
  omega

example : String.ofList (encode [0, 7, 14, 21]) = "AAcOFQ" := by decide

end FederatedLogin.Text.Base64Url

import FederatedLogin.Text.Base64Url

/-!
# Random texts

Randomness is a stream of bytes that is used up from its front, so that two draws never share a
byte.  A random text is the base64url form of the bytes it takes.
-/

namespace FederatedLogin

open FederatedLogin.Text

/-- A stream of random bytes, of which the first `used` are spent. -/
structure RandomSource where
  byteAt : Nat → UInt8
  used : Nat := 0

namespace RandomSource

/-- The stream that starts at a byte and grows by seven from byte to byte. -/
def arithmetic (seed : Int) : RandomSource where
  byteAt index := UInt8.ofNat ((seed + 7 * index) % 256).toNat

/-- The next bytes of a stream. -/
def upcoming (source : RandomSource) (count : Nat) : List UInt8 :=
  (List.range count).map fun index => source.byteAt (source.used + index)

/-- A stream after the use of some bytes. -/
def skip (source : RandomSource) (count : Nat) : RandomSource :=
  { source with used := source.used + count }

@[simp]
theorem length_upcoming (source : RandomSource) (count : Nat) :
    (source.upcoming count).length = count := by
  simp [upcoming]

/-- The text of the next bytes, and the stream after them. -/
def text (source : RandomSource) (count : Nat) : String × RandomSource :=
  (String.ofList (Base64Url.encode (source.upcoming count)), source.skip count)

/-- Several texts in a row. -/
def texts (source : RandomSource) (count : Nat) : Nat → List String
  | 0 => []
  | more + 1 =>
      let (first, rest) := source.text count
      first :: rest.texts count more

end RandomSource

end FederatedLogin

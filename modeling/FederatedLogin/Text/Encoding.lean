import FederatedLogin.Text.Utf8

/-!
# The encoding of a JSON document

A document arrives as bytes without a label.  Its encoding is read off its first bytes: a byte
order mark decides, and where there is none, the zero bytes among the first four do, because a
JSON document starts with an ASCII character.  What is neither UTF-16 nor UTF-32 by this rule is
UTF-8.

All three decoders admit surrogates that stand alone, and refuse everything else that is
ill-formed.
-/

namespace FederatedLogin.Text

/-- The order of the bytes in a unit of more than one byte. -/
inductive ByteOrder where
  | little
  | big
  deriving DecidableEq, Repr

/-- The encodings of a document. -/
inductive Encoding where
  | utf8
  | utf16 (order : ByteOrder)
  | utf32 (order : ByteOrder)
  deriving DecidableEq, Repr

namespace Encoding

/-- The number with these two bytes. -/
def unit16 (order : ByteOrder) (first second : UInt8) : Nat :=
  match order with
  | .little => second.toNat * 0x100 + first.toNat
  | .big => first.toNat * 0x100 + second.toNat

/-- The units of UTF-16, after the units already read, last first; an odd byte is refused. -/
def units16From? (order : ByteOrder) : List Nat → List UInt8 → Option (List Nat)
  | done, [] => some done.reverse
  | _, [_] => none
  | done, first :: second :: rest => units16From? order (unit16 order first second :: done) rest

/-- Whether a unit is the first half of a surrogate pair. -/
def isHigh (unit : Nat) : Bool :=
  0xD800 ≤ unit && unit < 0xDC00

/-- Whether a unit is the second half of a surrogate pair. -/
def isLow (unit : Nat) : Bool :=
  0xDC00 ≤ unit && unit < 0xE000

/-- The position that a surrogate pair stands for. -/
def pairPosition (high low : Nat) : Nat :=
  0x10000 + (high - 0xD800) * 0x400 + (low - 0xDC00)

/-- The code points of UTF-16 units: a high half and the low half after it are one code point, any
other half stands for itself. -/
def points16From : List Nat → List Nat → List Nat
  | done, [] => done.reverse
  | done, [unit] => (unit :: done).reverse
  | done, high :: low :: rest =>
      if isHigh high && isLow low then
        points16From (pairPosition high low :: done) rest
      else
        points16From (high :: done) (low :: rest)

/-- The units of UTF-32, after the units already read, last first. -/
def units32From? (order : ByteOrder) : List Nat → List UInt8 → Option (List Nat)
  | done, [] => some done.reverse
  | done, first :: second :: third :: fourth :: rest =>
      let unit := match order with
        | .little => unit16 .little third fourth * 0x10000 + unit16 .little first second
        | .big => unit16 .big first second * 0x10000 + unit16 .big third fourth
      units32From? order (unit :: done) rest
  | _, _ => none

/-- The code points of bytes in a given encoding. -/
def decode? (encoding : Encoding) (bytes : List UInt8) : Option (List CodePoint) :=
  match encoding with
  | .utf8 => Utf8.decode? true bytes
  | .utf16 order => do
      let units ← units16From? order [] bytes
      (points16From [] units).mapM CodePoint.ofNat?
  | .utf32 order => do
      let units ← units32From? order [] bytes
      units.mapM CodePoint.ofNat?

/-- The encoding of a document without a byte order mark.  With four bytes or more the first two
tell the width unless the first is ASCII and the second zero, where the next two do; a document of
two bytes is one unit of UTF-16 or UTF-8. -/
def ofZeroBytes : List UInt8 → Encoding
  | first :: second :: third :: fourth :: _ =>
      if first = 0 then
        if second = 0 then .utf32 .big else .utf16 .big
      else if second = 0 then
        if third = 0 ∧ fourth = 0 then .utf32 .little else .utf16 .little
      else
        .utf8
  | [first, second] =>
      if first = 0 then .utf16 .big
      else if second = 0 then .utf16 .little
      else .utf8
  | _ => .utf8

/-- The byte order marks, each with its encoding; the longer of two that begin alike comes first. -/
def marks : List (List UInt8 × Encoding) :=
  [([0x00, 0x00, 0xFE, 0xFF], .utf32 .big),
   ([0xFF, 0xFE, 0x00, 0x00], .utf32 .little),
   ([0xFE, 0xFF], .utf16 .big),
   ([0xFF, 0xFE], .utf16 .little),
   ([0xEF, 0xBB, 0xBF], .utf8)]

/-- The encoding of a document, and its bytes without the byte order mark. -/
def detect (bytes : List UInt8) : Encoding × List UInt8 :=
  match marks.find? fun mark => mark.1.isPrefixOf bytes with
  | some (mark, encoding) => (encoding, bytes.drop mark.length)
  | none => (ofZeroBytes bytes, bytes)

/-- The code points of a document. -/
def decodeDetected? (bytes : List UInt8) : Option (List CodePoint) :=
  let (encoding, content) := detect bytes
  encoding.decode? content

example : (detect [0x00, 0x7B, 0x00, 0x7D]).1 = .utf16 .big := by decide
example : (detect [0x7B, 0x00, 0x00, 0x00]).1 = .utf32 .little := by decide
example : (detect [0x7B, 0x00]).1 = .utf16 .little := by decide
example : (detect [0xEF, 0xBB, 0xBF, 0x7B]) = (.utf8, [0x7B]) := by decide

end Encoding

end FederatedLogin.Text

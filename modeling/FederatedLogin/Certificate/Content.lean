import FederatedLogin.Text.Utf8

/-!
# Contents

Some types of elements restrict what their contents may be.  An integer is written in the fewest
bytes, an identifier is a row of groups of seven bits in the fewest bytes each, and a text fits its
alphabet.
-/

namespace FederatedLogin.Certificate

open FederatedLogin.Text

namespace Universal

/-- The universal type of truth values. -/
def boolean : Nat :=
  1

/-- The universal type of integers. -/
def integer : Nat :=
  2

/-- The universal type of rows of bits. -/
def bits : Nat :=
  3

/-- The universal type of rows of bytes. -/
def octets : Nat :=
  4

/-- The universal type of the empty element. -/
def null : Nat :=
  5

/-- The universal type of identifiers. -/
def identifier : Nat :=
  6

/-- The universal type of choices from a list. -/
def enumerated : Nat :=
  10

/-- The universal type of texts in UTF-8. -/
def utf8Text : Nat :=
  12

/-- The universal type of rows of elements. -/
def row : Nat :=
  16

/-- The universal type of sets of elements. -/
def set : Nat :=
  17

/-- The universal type of texts with four bytes a character. -/
def wideText : Nat :=
  28

/-- The universal type of texts with two bytes a character. -/
def pairText : Nat :=
  30

/-- The types of points in time. -/
def times : List Nat :=
  [23, 24]

/-- The types that the value of a name may have. -/
def nameValues : List Nat :=
  [bits, 7, 8, 9, 11, utf8Text, 13, 14, 15, row, 18, 19, 20, 22, wideText, 29, pairText]

/-- The types that are never made of pieces. -/
def whole : List Nat :=
  [boolean, integer, null, identifier, enumerated]

end Universal

namespace Content

/-- Whether a content is an integer: a first byte that only repeats the sign is one too many. -/
def isInteger : List UInt8 → Bool
  | [] => false
  | [_] => true
  | first :: second :: _ =>
      !((first == 0x00 && second < 0x80) || (first == 0xFF && 0x80 ≤ second))

/-- Whether no group starts with an empty one; `isInside` says whether a group has begun. -/
def hasNoEmptyStart (isInside : Bool) : List UInt8 → Bool
  | [] => true
  | byte :: rest => (isInside || byte != 0x80) && hasNoEmptyStart (0x80 ≤ byte) rest

/-- Whether a content is an identifier. -/
def isIdentifier (content : List UInt8) : Bool :=
  content.getLast?.any (· < 0x80) && hasNoEmptyStart false content

/-- Whether a content is a row of bits: how many of the last byte are unused, and the bytes. -/
def isBits (content : List UInt8) : Bool :=
  content.head?.any (· < 8)

/-- Whether a content fits a universal type. -/
def fits (type : Nat) (content : List UInt8) : Bool :=
  if type = Universal.boolean then content.length == 1
  else if type = Universal.integer ∨ type = Universal.enumerated then isInteger content
  else if type = Universal.bits then isBits content
  else if type = Universal.null then content.isEmpty
  else if type = Universal.identifier then isIdentifier content
  else if type = Universal.wideText then content.length % 4 == 0
  else if type = Universal.pairText then content.length % 2 == 0
  else true

/-- Whether a number is the position of a character. -/
def isPosition (number : Nat) : Bool :=
  number < 0xD800 || (0xDFFF < number && number ≤ 0x10FFFF)

/-- Whether bytes are the positions of characters, each of them in two bytes. -/
def arePairs : List UInt8 → Bool
  | first :: second :: rest => isPosition (first.toNat * 256 + second.toNat) && arePairs rest
  | rest => rest.isEmpty

/-- Whether bytes are the positions of characters, each of them in four bytes. -/
def areWide : List UInt8 → Bool
  | first :: second :: third :: fourth :: rest =>
      isPosition (((first.toNat * 256 + second.toNat) * 256 + third.toNat) * 256 + fourth.toNat) &&
        areWide rest
  | rest => rest.isEmpty

/-- Whether a content of a type is a text, where the type has an alphabet. -/
def isText (type : Nat) (content : List UInt8) : Bool :=
  if type = Universal.utf8Text then (Utf8.decode? false content).isSome
  else if type = Universal.pairText then arePairs content
  else if type = Universal.wideText then areWide content
  else true

example : isInteger [0x80] && isInteger [0x00, 0x80] && !isInteger [0x00, 0x01] &&
    isInteger [0xFF, 0x7F] && !isInteger [0xFF, 0x80] := by decide

example : isIdentifier [0x2A, 0x86, 0x48] && !isIdentifier [0x2A, 0x80, 0x01] &&
    !isIdentifier [0x2A, 0x86] && !isIdentifier [] := by decide

end Content

end FederatedLogin.Certificate

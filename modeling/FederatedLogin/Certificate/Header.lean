/-!
# Tags and lengths

A certificate is a tree of tagged elements.  In front of the content of an element stand its tag and
its length.  Instead of a length there may be the announcement that the content is open: it then
goes on until an end mark of two zero bytes.

`Header.read?` refuses a length that goes beyond the bytes that are there.
-/

namespace FederatedLogin.Certificate

/-- The spaces that the numbers of tags are taken from. -/
inductive TagSpace where
  | universal
  | application
  | context
  | privateUse
  deriving DecidableEq, Repr

/-- A tag. -/
structure Tag where
  space : TagSpace
  number : Nat
  deriving DecidableEq, Repr

/-- What stands in front of a content. -/
structure Header where
  tag : Tag
  /-- Whether the content is made of elements. -/
  isConstructed : Bool
  /-- The length of the content, unless it is open. -/
  length : Option Nat
  deriving DecidableEq, Repr

/-- The number with these bytes. -/
def numberOf (bytes : List UInt8) : Nat :=
  bytes.foldl (fun number byte => number * 256 + byte.toNat) 0

namespace Tag

/-- The universal tag with a number. -/
def universal (number : Nat) : Tag :=
  ⟨.universal, number⟩

/-- The tag with a number that has its meaning where it stands. -/
def context (number : Nat) : Tag :=
  ⟨.context, number⟩

end Tag

namespace Header

/-- The space of a tag, which the two highest bits of its first byte name. -/
def spaceOf (first : UInt8) : TagSpace :=
  if first < 0x40 then .universal
  else if first < 0x80 then .application
  else if first < 0xC0 then .context
  else .privateUse

/-- The number in the lowest five bits that says that the number of the tag follows. -/
def longMark : Nat :=
  31

/-- The greatest number that a further group of seven bits may be put behind. -/
def maxPrefix : Nat :=
  0xFFFFFF

/-- The number of a long tag in groups of seven bits, after the groups read so far, and what follows
it. -/
def longNumber? (number : Nat) : List UInt8 → Option (Nat × List UInt8)
  | [] => none
  | byte :: rest =>
      let next := number * 128 + byte.toNat % 128
      if byte < 0x80 then some (next, rest)
      else if maxPrefix < next then none
      else longNumber? next rest

/-- The number of a tag, and what follows it. -/
def number? (first : UInt8) (rest : List UInt8) : Option (Nat × List UInt8) :=
  if first.toNat % 32 = longMark then longNumber? 0 rest else some (first.toNat % 32, rest)

/-- The length in front of a content, and what follows it.  A short length is one byte; a long one
says first how many bytes it takes, and stands at the very end of no bytes. -/
def length? : List UInt8 → Option (Option Nat × List UInt8)
  | [] => none
  | first :: rest =>
      let width := first.toNat - 0x80
      if first < 0x80 then some (some first.toNat, rest)
      else if width = 0 then some (none, rest)
      else if rest.length ≤ width then none
      else some (some (numberOf (rest.take width)), rest.drop width)

/-- Whether a header fits what follows it. -/
def fits (header : Header) (rest : List UInt8) : Bool :=
  match header.length with
  | some length => length ≤ rest.length
  | none => header.isConstructed

/-- The header in front of some bytes, and what follows it. -/
def read? : List UInt8 → Option (Header × List UInt8)
  | [] => none
  | first :: rest => do
      let (number, rest) ← number? first rest
      let (length, rest) ← length? rest
      let header : Header := ⟨⟨spaceOf first, number⟩, first.toNat / 32 % 2 == 1, length⟩
      if header.fits rest then return (header, rest) else none

example : read? [0x30, 0x03, 1, 2, 3, 4] =
    some (⟨.universal 16, true, some 3⟩, [1, 2, 3, 4]) := by decide
example : read? [0xBF, 0x81, 0x02, 0x80, 7] = some (⟨.context 130, true, none⟩, [7]) := by decide
example : read? [0x04, 0x81, 0x00] = none ∧ read? [0x04, 0x80, 0] = none := by decide

end Header

end FederatedLogin.Certificate

import FederatedLogin.Certificate.Content
import FederatedLogin.Certificate.Header

/-!
# Readers of elements

A reader takes one element off the front of some bytes.  Readers of large elements are put together
from readers of small ones: `sequence` reads fields one after another, `repeated` the same element
again and again, `explicit` an element that is wrapped in another.

An element that may be missing is passed over if there is another tag in its place.
-/

namespace FederatedLogin.Certificate

/-- What a reader makes of some bytes. -/
inductive Outcome where
  /-- The element is not there, and need not be. -/
  | absent
  | refused
  /-- The element is there, and this follows it. -/
  | read (rest : List UInt8)
  deriving DecidableEq, Repr

/-- A reader.  It is told which tag stands in place of the usual one, and whether the element may be
missing. -/
abbrev Reader := Option Tag → Bool → List UInt8 → Outcome

/-- A field of a sequence. -/
structure Field where
  reader : Reader
  isOptional : Bool := false

/-- Whether bytes start with an end mark. -/
def startsWithEnd : List UInt8 → Bool
  | 0 :: 0 :: _ => true
  | _ => false

/-- Reads inside a content.  What is read says what follows it, and whether the end mark of an open
content is still to come; all of a content has to be read. -/
def inside? {α : Type} (header : Header) (rest : List UInt8)
    (read? : Bool → List UInt8 → Option (α × List UInt8 × Bool)) : Option (α × List UInt8) :=
  match header.length with
  | some length =>
      match read? false (rest.take length) with
      | some (value, [], _) => some (value, rest.drop length)
      | _ => none
  | none =>
      match read? true rest with
      | some (value, rest, false) => some (value, rest)
      | some (value, 0 :: 0 :: rest, true) => some (value, rest)
      | _ => none

/-- The outcome of reading an element that is there. -/
def Outcome.ofRest? {α : Type} : Option (α × List UInt8) → Outcome
  | some (_, rest) => .read rest
  | none => .refused

/-- Reads the element with a tag; `read?` is given its header and what follows that. -/
def expect (tag : Tag) (isOptional : Bool) (bytes : List UInt8)
    (read? : Header → List UInt8 → Outcome) : Outcome :=
  match Header.read? bytes with
  | none => .refused
  | some (header, rest) =>
      if header.tag = tag then read? header rest
      else if isOptional then .absent
      else .refused

namespace Content

/-- How deep the pieces of a content may lie in one another. -/
def maxDepth : Nat :=
  5

/-- Puts the pieces of a content together; each takes at least one byte of the measure. -/
def gather? : Nat → Nat → Bool → List UInt8 → Option (List UInt8 × List UInt8 × Bool)
  | _, _, isOpen, [] => some ([], [], isOpen)
  | 0, _, _, _ => none
  | measure + 1, depth, isOpen, bytes =>
      if startsWithEnd bytes then
        if isOpen then some ([], bytes.drop 2, false) else none
      else do
        let (header, rest) ← Header.read? bytes
        let (piece, rest) ←
          if header.isConstructed then
            match depth with
            | 0 => none
            | depth + 1 => inside? header rest (gather? measure depth)
          else
            let length := header.length.getD 0
            some (rest.take length, rest.drop length)
        let (pieces, rest, isOpen) ← gather? measure depth isOpen rest
        return (piece ++ pieces, rest, isOpen)

/-- What follows a number of end marks; each step takes at least one byte of the measure. -/
def afterEnds? : Nat → Nat → List UInt8 → Option (List UInt8)
  | _, 0, rest => some rest
  | 0, _, _ => none
  | measure + 1, marks + 1, bytes =>
      if startsWithEnd bytes then afterEnds? measure marks (bytes.drop 2)
      else
        match Header.read? bytes with
        | none => none
        | some (⟨_, _, none⟩, rest) => afterEnds? measure (marks + 2) rest
        | some (⟨_, _, some length⟩, rest) => afterEnds? measure (marks + 1) (rest.drop length)

/-- Passes over a content. -/
def skip? (header : Header) (rest : List UInt8) : Option (List UInt8) :=
  match header.length with
  | some length => some (rest.drop length)
  | none => afterEnds? rest.length 1 rest

/-- The content of an element of a universal type, and what follows it.  Rows and sets are left
unread, other constructed elements are put together from their pieces. -/
def read? (type : Nat) (header : Header) (rest : List UInt8) : Option (List UInt8 × List UInt8) :=
  if type = Universal.row ∨ type = Universal.set then
    if header.isConstructed then (skip? header rest).map fun rest => ([], rest) else none
  else if header.isConstructed then
    if Universal.whole.contains type then none
    else inside? header rest (gather? rest.length maxDepth)
  else
    let length := header.length.getD 0
    some (rest.take length, rest.drop length)

/-- The content of an element of a universal type that fits it, and what follows it. -/
def fitting? (type : Nat) (header : Header) (rest : List UInt8) :
    Option (List UInt8 × List UInt8) :=
  (read? type header rest).filter fun found => fits type found.1

end Content

namespace Reader

/-- Reads an element of a universal type. -/
def ofType (type : Nat) : Reader := fun tag isOptional bytes =>
  expect (tag.getD (.universal type)) isOptional bytes fun header rest =>
    .ofRest? (Content.fitting? type header rest)

/-- Reads an element of a universal type, whether or not its content fits the type. -/
def anyOfType (type : Nat) : Reader := fun tag isOptional bytes =>
  expect (tag.getD (.universal type)) isOptional bytes fun header rest =>
    .ofRest? (Content.read? type header rest)

/-- Reads an element of one of some universal types whose content is in order for the type. -/
def ofTypes (types : List Nat) (isInOrder : Nat → List UInt8 → Bool) : Reader :=
  fun _ isOptional bytes =>
    match Header.read? bytes with
    | none => .refused
    | some (header, rest) =>
        if header.tag.space = .universal ∧ types.contains header.tag.number then
          .ofRest? ((Content.fitting? header.tag.number header rest).filter fun found =>
            isInOrder header.tag.number found.1)
        else if isOptional then .absent
        else .refused

/-- Reads any element.  What is not of a universal type is passed over. -/
def any : Reader := fun _ _ bytes =>
  match Header.read? bytes with
  | none => .refused
  | some (header, rest) =>
      if header.tag.space = .universal then
        .ofRest? (Content.fitting? header.tag.number header rest)
      else
        .ofRest? ((Content.skip? header rest).map fun rest => ((), rest))

/-- Reads fields.  Bytes may run out, and an open content may end, where only fields follow that may
be missing.  The last field may not be missing if there are bytes. -/
def readFields? (isOpen : Bool) : List Field → List UInt8 → Option (Unit × List UInt8 × Bool)
  | [], bytes => some ((), bytes, isOpen)
  | fields, [] => if fields.all Field.isOptional then some ((), [], isOpen) else none
  | field :: fields, bytes =>
      if startsWithEnd bytes then
        if isOpen && (field :: fields).all Field.isOptional then some ((), bytes.drop 2, false)
        else none
      else
        match field.reader none (field.isOptional && !fields.isEmpty) bytes with
        | .absent => readFields? isOpen fields bytes
        | .refused => none
        | .read rest => readFields? isOpen fields rest

/-- Reads a sequence of fields. -/
def sequence (fields : List Field) : Reader := fun tag isOptional bytes =>
  expect (tag.getD (.universal Universal.row)) isOptional bytes fun header rest =>
    if header.isConstructed then
      .ofRest? (inside? header rest fun isOpen => readFields? isOpen fields)
    else
      .refused

/-- Reads elements of one kind; each takes at least one byte of the measure. -/
def readItems? (item : Reader) (isOpen : Bool) :
    Nat → List UInt8 → Option (Unit × List UInt8 × Bool)
  | _, [] => some ((), [], isOpen)
  | 0, _ => none
  | measure + 1, bytes =>
      if startsWithEnd bytes then
        if isOpen then some ((), bytes.drop 2, false) else none
      else
        match item none false bytes with
        | .read rest => readItems? item isOpen measure rest
        | _ => none

/-- Reads an element of a type whose content is a row of elements of one kind. -/
def repeated (type : Nat) (item : Reader) : Reader := fun tag isOptional bytes =>
  expect (tag.getD (.universal type)) isOptional bytes fun header rest =>
    .ofRest? (inside? header rest fun isOpen content =>
      readItems? item isOpen content.length content)

/-- Reads an element inside another one with a tag. -/
def explicit (number : Nat) (inner : Reader) : Reader := fun _ isOptional bytes =>
  expect (.context number) isOptional bytes fun header rest =>
    if header.isConstructed then
      .ofRest? (inside? header rest fun isOpen content =>
        match inner none false content with
        | .read rest => some ((), rest, isOpen)
        | _ => none)
    else
      .refused

/-- Reads an element under another tag. -/
def implicit (number : Nat) (inner : Reader) : Reader := fun _ isOptional bytes =>
  inner (some (.context number)) isOptional bytes

/-- What follows the element at the front of some bytes, if there is one. -/
def after? (reader : Reader) (bytes : List UInt8) : Option (List UInt8) :=
  match reader none false bytes with
  | .read rest => some rest
  | _ => none

/-- A field that has to be there. -/
def required (reader : Reader) : Field :=
  { reader }

/-- A field that may be missing. -/
def optional (reader : Reader) : Field :=
  { reader, isOptional := true }

end Reader

end FederatedLogin.Certificate

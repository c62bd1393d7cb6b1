import FederatedLogin.Failure
import FederatedLogin.HostName.Company
import FederatedLogin.HostName.Joining
import FederatedLogin.HostName.Letter
import FederatedLogin.Text.Composition
import FederatedLogin.Text.Punycode

/-!
# Labels of host names

A host name is made of labels with dots between them.  A label that starts with `xn--` stands for
the characters that the rest of it writes in Punycode.  `check` looks whether every label stands for
characters that a label may have, in an order in which it may have them; the first fault counts.
-/

namespace FederatedLogin.HostName

open FederatedLogin.Text

/-- The start of a label in Punycode. -/
def marker : List Char :=
  "xn--".toList

/-- The most characters of a host name. -/
def maxLength : Nat :=
  254

/-- The characters that a label stands for. -/
def meaning? (label : List Char) : Option (List Nat) :=
  let label := label.map Char.toLower
  if marker.isPrefixOf label then
    let source := label.drop marker.length
    if source.isEmpty || source.getLast? == some '-' then none else Punycode.decode? source
  else
    some (label.map Char.toNat)

/-- Whether hyphens are where they may be: neither at an end nor at the places of the marker. -/
def hyphensFit (label : List Nat) : Bool :=
  let hyphen := '-'.toNat
  label.head? != some hyphen && label.getLast? != some hyphen &&
    (label.drop 2).take 2 != [hyphen, hyphen]

/-- Whether a label is in the form that its characters have to be in, whichever they are. -/
def isWellFormed (label : List Nat) : Bool :=
  !label.isEmpty && isComposed label && hyphensFit label && !label.head?.any isMark

/-- What is wrong with a character between those before it, the nearest first, and those after. -/
def letterFault? (letter : Nat) (before after : List Nat) : Option HostFault :=
  if isLetter letter then none
  else if letter = joiner ∨ letter = nonJoiner then
    if joinerFits letter before after then none else some .malformed
  else
    match companyFits? letter before after with
    | some true => none
    | some false => some .companyRefused
    | none => some .letterRefused

/-- What is wrong with the first faulty one of some characters after others. -/
def lettersFault? (before : List Nat) : List Nat → Option HostFault
  | [] => none
  | letter :: after =>
      match letterFault? letter before after with
      | some fault => some fault
      | none => lettersFault? (letter :: before) after

/-- What is wrong with a label. -/
def labelFault? (label : List Char) : Option HostFault :=
  match meaning? label with
  | none => some .malformed
  | some characters =>
      if isWellFormed characters then
        match lettersFault? [] characters with
        | some fault => some fault
        | none => if fitsDirections characters then none else some .directionsMixed
      else
        some .malformed

/-- The labels of a host name.  The root of all names, an empty label at the end, does not count. -/
def labels (name : List Char) : List (List Char) :=
  let parts := partsAt '.' name
  if parts.getLast? = some [] then parts.dropLast else parts

/-- Looks whether every label of a host name is in order. -/
def check (name : List Char) : Except HostFault Unit :=
  if maxLength < name.length then .error .malformed
  else
    match (labels name).findSome? labelFault? with
    | some fault => .error fault
    | none => .ok ()

example : labelFault? "xn--bcher-kva".toList = none ∧
    labelFault? "xn--".toList = some .malformed ∧
    labelFault? "xn--a".toList = some .letterRefused ∧
    labelFault? "a_b".toList = some .letterRefused := by
  decide +kernel

end FederatedLogin.HostName

import FederatedLogin.Text.Digit
import FederatedLogin.Text.Separated

/-!
# Punycode

A text of any characters is written with ASCII letters, digits and hyphens: first its ASCII
characters, then, behind a hyphen, where each of the others goes in.  The others come in ascending
order, so that an insertion is told by one number: how many places lie between it and the insertion
before, counting a place for every character up to the one inserted.

The numbers are written in base 36 with the lowest digit first.  Below a threshold a digit is the
last of its number; the thresholds follow from a bias that adapts to the numbers read so far.
-/

namespace FederatedLogin.Text.Punycode

/-- The value of a digit in base 36: letters of either case count from zero, digits from 26. -/
def digit? (value : Char) : Option Nat :=
  if 'a' ≤ value ∧ value ≤ 'z' then some (value.toNat - 'a'.toNat)
  else if 'A' ≤ value ∧ value ≤ 'Z' then some (value.toNat - 'A'.toNat)
  else if isAsciiDigit value then some (asciiDigitValue value + 26)
  else none

/-- The threshold for the digit at a place of a number, from 1 to 26. -/
def threshold (bias place : Nat) : Nat :=
  min 26 (max 1 (36 * (place + 1) - bias))

/-- Reads a number from a place on, whose digit has a weight. -/
def number? (bias place weight : Nat) : List Char → Option (Nat × List Char)
  | [] => none
  | value :: rest => do
      let digit ← digit? value
      let bound := threshold bias place
      if digit < bound then return (digit * weight, rest)
      let (higher, rest) ← number? bias (place + 1) (weight * (36 - bound)) rest
      return (digit * weight + higher, rest)

/-- What remains of a number above 455 when it is divided by 35 until it is not, with 36 for each
division. -/
def shrink (number : Nat) : Nat × Nat :=
  if 455 < number then
    let (rest, steps) := shrink (number / 35)
    (rest, steps + 36)
  else
    (number, 0)
termination_by number
decreasing_by exact Nat.div_lt_self (by omega) (by omega)

/-- The bias after a number, with how many characters there are once its one is inserted. -/
def adapt (isFirst : Bool) (number count : Nat) : Nat :=
  let damped := number / if isFirst then 700 else 2
  let (rest, steps) := shrink (damped + damped / count)
  steps + 36 * rest / (rest + 38)

/-- A number takes at least one digit. -/
theorem length_lt_of_number? {bias place weight : Nat} {source : List Char}
    {result : Nat × List Char} (read : number? bias place weight source = some result) :
    result.2.length < source.length := by
  induction source generalizing place weight result with
  | nil => simp [number?] at read
  | cons value rest ih =>
      simp only [number?, Option.bind_eq_bind, Option.bind_eq_some_iff] at read
      obtain ⟨digit, -, read⟩ := read
      split at read
      · obtain rfl := Option.some.inj read
        simp
      · simp only [Option.bind_eq_some_iff] at read
        obtain ⟨⟨higher, left⟩, found, read⟩ := read
        obtain rfl := Option.some.inj read
        exact Nat.lt_succ_of_lt (ih found :)

/-- How far a text is read: the bias for the next number, the position of the character inserted
last, and the index behind it. -/
structure Progress where
  bias : Nat
  position : Nat
  index : Nat

/-- Before any insertion. -/
def start : Progress :=
  { bias := 72, position := 0x80, index := 0 }

/-- Inserts what the numbers of a source tell into a text.  A position outside the code space is
none of a character; whether the first number is read shows in the bias. -/
def insertAll? (isFirst : Bool) (progress : Progress) (text : List Nat) (source : List Char) :
    Option (List Nat) :=
  if source.isEmpty then some text
  else
    match _ : number? progress.bias 0 1 source with
    | none => none
    | some (number, rest) =>
        let count := text.length + 1
        let place := progress.index + number
        let position := progress.position + place / count
        let index := place % count
        if 0x10FFFF < position then none
        else
          let bias := adapt isFirst number count
          insertAll? false { bias, position, index := index + 1 }
            (text.take index ++ position :: text.drop index) rest
termination_by source.length
decreasing_by exact length_lt_of_number? (by assumption)

/-- The text that a source writes, as the positions of its characters. -/
def decode? (source : List Char) : Option (List Nat) :=
  let (plain, numbers) := (splitLast? '-' source).getD ([], source)
  insertAll? true start (plain.map Char.toNat) numbers

example : decode? "bcher-kva".toList = some ("bücher".toList.map Char.toNat) ∧
    decode? "n3h".toList = some ("☃".toList.map Char.toNat) ∧ decode? "0".toList = none := by
  decide +kernel

end FederatedLogin.Text.Punycode

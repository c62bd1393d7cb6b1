import FederatedLogin.Failure
import FederatedLogin.Number.Shortest

/-!
# Timestamps

A time is a number of seconds since the start of the year 1970, without leap seconds.  It is written
in the Gregorian calendar, with microseconds if there are any, and ends in the mark of the zero
meridian.

Days are counted from the first day of the year 1.  The calendar repeats every 400 years, which are
four centuries of which the last is a day longer; a century is made of leap cycles of four years,
the last year of each being a day longer.
-/

namespace FederatedLogin.Logging.Timestamp

open FederatedLogin.Number

/-- A day of the calendar. -/
structure Date where
  year : Nat
  month : Nat
  day : Nat
  deriving DecidableEq, Repr

/-- Whether a year has a leap day. -/
def isLeapYear (year : Nat) : Bool :=
  year % 4 == 0 && (year % 100 != 0 || year % 400 == 0)

/-- The lengths of the months of a year. -/
def monthLengths (year : Nat) : List Nat :=
  [31, if isLeapYear year then 29 else 28, 31, 30, 31, 30, 31, 31, 30, 31, 30, 31]

/-- The month and the day in it, where `month` is the first of the months given and `day` counts
from zero. -/
def monthAndDay (month day : Nat) : List Nat → Nat × Nat
  | [] => (month, day + 1)
  | length :: rest => if day < length then (month, day + 1) else
      monthAndDay (month + 1) (day - length) rest

/-- The date of a day, counted from the first day of the year 1. -/
def dateOf (days : Nat) : Date :=
  let inCycle := days % 146097
  let century := min (inCycle / 36524) 3
  let inCentury := inCycle - century * 36524
  let inFour := inCentury % 1461
  let yearInFour := min (inFour / 365) 3
  let year := days / 146097 * 400 + century * 100 + inCentury / 1461 * 4 + yearInFour + 1
  let (month, day) := monthAndDay 1 (inFour - yearInFour * 365) (monthLengths year)
  ⟨year, month, day⟩

/-- The days from the first day of the year 1 to the first day of the year 1970. -/
def daysBefore1970 : Nat :=
  719162

/-- The days that timestamps can name.  The first day of all is not among them. -/
def isInCalendar (days : Nat) : Bool :=
  1 ≤ days && (dateOf days).year ≤ 9999

/-- The microseconds of a part of a second.  They are first a number with a binary fraction again,
and then whole; a tie goes to the even one. -/
def wholeMicroseconds (numerator denominator : Nat) : Nat :=
  let (numerator, denominator) :=
    Shortest.quotient (Binary64.nearest (numerator * 1000000) denominator)
  Binary64.roundQuotient numerator denominator

/-- The first second after the last year whose number the clock can hold. -/
def clockEnd : Int :=
  67768036191676800

/-- The first second of the first year whose number the clock can hold. -/
def clockStart : Int :=
  -67768040609740800

/-- A time in whole microseconds.  It has to be a number of seconds that sixty-four bits can hold,
and to lie in a year whose number thirty-two bits can hold. -/
def microseconds (time : Float) : Except Trouble Int :=
  let magnitude := Binary64.magnitude time
  if Binary64.infinityBits < magnitude then .error .malformedValue
  else if Binary64.nearest 0x8000000000000000 1 < magnitude then .error .integerTooLarge
  else
    let (numerator, denominator) := Shortest.quotient magnitude
    let fraction := wholeMicroseconds (numerator % denominator) denominator
    let size : Nat := numerator / denominator * 1000000 + fraction
    let rounded : Int := if Binary64.isNegative time then -size else size
    if clockStart ≤ rounded.fdiv 1000000 ∧ rounded.fdiv 1000000 < clockEnd then .ok rounded
    else .error .timeUnrepresentable

/-- Decimal digits of a number, at least `width` of them. -/
def digits (width number : Nat) : String :=
  let shown := Nat.toDigits 10 number
  String.ofList (List.replicate (width - shown.length) '0' ++ shown)

/-- The text of a date. -/
def dateText (date : Date) : String :=
  digits 4 date.year ++ "-" ++ digits 2 date.month ++ "-" ++ digits 2 date.day

/-- The text of a time of day, given in microseconds. -/
def timeText (time : Nat) : String :=
  let seconds := time / 1000000
  let fraction := time % 1000000
  digits 2 (seconds / 3600) ++ ":" ++ digits 2 (seconds / 60 % 60) ++ ":" ++
    digits 2 (seconds % 60) ++ (if fraction = 0 then "" else "." ++ digits 6 fraction)

/-- The text of a time, given in microseconds. -/
def textOfMicroseconds (time : Int) : Except Trouble String :=
  let perDay : Int := 86400000000
  let days := time.fdiv perDay + daysBefore1970
  if 0 ≤ days ∧ isInCalendar days.toNat then
    .ok (dateText (dateOf days.toNat) ++ "T" ++ timeText (time.fmod perDay).toNat ++ "Z")
  else .error .timeOutOfRange

/-- The text of a time. -/
def text (time : Float) : Except Trouble String := do
  textOfMicroseconds (← microseconds time)

example : dateOf 0 = ⟨1, 1, 1⟩ ∧ dateOf 719162 = ⟨1970, 1, 1⟩ := by decide +kernel
example : dateOf 730178 = ⟨2000, 2, 29⟩ ∧ dateOf 730484 = ⟨2000, 12, 31⟩ := by decide +kernel
example : (textOfMicroseconds (-1)).toOption = some "1969-12-31T23:59:59.999999Z" := by
  decide +kernel

end FederatedLogin.Logging.Timestamp

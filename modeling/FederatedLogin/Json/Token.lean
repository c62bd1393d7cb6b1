import FederatedLogin.Json.Value
import FederatedLogin.Number.Binary64
import FederatedLogin.Text.Digit
import FederatedLogin.Text.Encoding

/-!
# Tokens of a JSON document

The lexer is a machine that reads one code point at a time.  Outside strings it collects the
letters, digits, signs and points that stand together into one bare word, and looks at the word
when it ends: it is a literal, a name of a number that is none, or a number.  No two words ever
stand side by side in a document, so nothing is lost by taking the longest.

Inside a string it remembers the first half of a surrogate pair that an escape has named, because
an escape that names the second half joins it.
-/

namespace FederatedLogin.Json

open FederatedLogin.Text FederatedLogin.Number

/-- A token of a document. -/
inductive Token where
  | openObject
  | closeObject
  | openArray
  | closeArray
  | colon
  | comma
  | text (points : List CodePoint)
  | scalar (value : Value)
  deriving Inhabited

namespace Token

/-- How many digits an integer may have. -/
def maxDigits : Nat :=
  4300

/-- Takes a minus sign off a number. -/
def splitMinus : List Char → Bool × List Char
  | '-' :: rest => (true, rest)
  | rest => (false, rest)

/-- The whole part of a number: a zero, or digits that do not start with one. -/
def splitWhole (word : List Char) : Option (List Char × List Char) :=
  let digits := word.takeWhile isAsciiDigit
  match digits with
  | [] => none
  | ['0'] => some (['0'], word.drop 1)
  | '0' :: _ => none
  | _ => some (digits, word.drop digits.length)

/-- The fraction of a number, without its point; `none` where a point has no digit after it. -/
def splitFraction : List Char → Option (List Char × List Char)
  | '.' :: rest =>
      let digits := rest.takeWhile isAsciiDigit
      if digits.isEmpty then none else some (digits, rest.drop digits.length)
  | rest => some ([], rest)

/-- The exponent of a number. -/
def exponent? : List Char → Option Int
  | [] => some 0
  | mark :: rest =>
      if mark = 'e' ∨ mark = 'E' then
        let (negative, digits) := match rest with
          | '+' :: digits => (false, digits)
          | '-' :: digits => (true, digits)
          | digits => (false, digits)
        if digits.isEmpty || !digits.all isAsciiDigit then none
        else
          let magnitude : Int := naturalOfDigits digits
          some (if negative then -magnitude else magnitude)
      else
        none

/-- The number that a word writes.  It is an integer unless it has a fraction or an exponent. -/
def number? (word : List Char) : Option Value := do
  let (negative, unsigned) := splitMinus word
  let (whole, afterWhole) ← splitWhole unsigned
  let (fraction, afterFraction) ← splitFraction afterWhole
  if fraction.isEmpty && afterFraction.isEmpty then
    if whole.length > maxDigits then none
    else
      let magnitude : Int := naturalOfDigits whole
      some (.integer (if negative then -magnitude else magnitude))
  else
    let exponent ← exponent? afterFraction
    some (.real (Binary64.ofDecimal negative (naturalOfDigits (whole ++ fraction))
      (exponent - fraction.length)))

/-- The words that are not numbers in digits. -/
def literals : List (String × Value) :=
  [("true", .bool true),
   ("false", .bool false),
   ("null", .null),
   ("NaN", .real (Binary64.signed false 0x7FF8000000000000)),
   ("Infinity", .real (Binary64.signed false Binary64.infinityBits)),
   ("-Infinity", .real (Binary64.signed true Binary64.infinityBits))]

/-- The value of a bare word. -/
def ofWord? (word : List Char) : Option Value :=
  match literals.find? fun literal => literal.1.toList == word with
  | some (_, value) => some value
  | none => number? word

/-- Whether a character belongs to a bare word. -/
def isBare (value : Char) : Bool :=
  value.isAlphanum || value == '+' || value == '-' || value == '.'

/-- Whether a character may stand between tokens. -/
def isSpace (value : Char) : Bool :=
  value == ' ' || value == '\t' || value == '\n' || value == '\r'

/-- The token that is one character long. -/
def punctuation? : Char → Option Token
  | '{' => some .openObject
  | '}' => some .closeObject
  | '[' => some .openArray
  | ']' => some .closeArray
  | ':' => some .colon
  | ',' => some .comma
  | _ => none

/-- The character that a backslash makes of the character after it. -/
def escaped? : Char → Option Char
  | '"' => some '"'
  | '\\' => some '\\'
  | '/' => some '/'
  | 'b' => some '\x08'
  | 'f' => some '\x0C'
  | 'n' => some '\n'
  | 'r' => some '\r'
  | 't' => some '\t'
  | _ => none

/-- Where the lexer stands.  Code points and characters read so far stand last first; `half` is the
first half of a surrogate pair that an escape has just named. -/
inductive Place where
  | between
  | word (read : List Char)
  | string (read : List CodePoint) (half : Option Nat)
  | escape (read : List CodePoint) (half : Option Nat)
  | hex (read : List CodePoint) (half : Option Nat) (missing : Nat) (unit : Nat)

/-- The code points read, after a half that found no partner. -/
def settle (read : List CodePoint) : Option Nat → List CodePoint
  | none => read
  | some half => (CodePoint.ofNat? half).toList ++ read

/-- Takes in the unit that an escape names. -/
def takeUnit (read : List CodePoint) (half : Option Nat) (unit : Nat) : Place :=
  match half with
  | some high =>
      if Encoding.isLow unit then
        .string ((CodePoint.ofNat? (Encoding.pairPosition high unit)).toList ++ read) none
      else if Encoding.isHigh unit then
        .string (settle read half) (some unit)
      else
        .string ((CodePoint.ofNat? unit).toList ++ settle read half) none
  | none =>
      if Encoding.isHigh unit then .string read (some unit)
      else .string ((CodePoint.ofNat? unit).toList ++ read) none

/-- A code point between tokens. -/
def stepBetween (done : List Token) : CodePoint → Option (List Token × Place)
  | .surrogate _ => none
  | .char value =>
      if isSpace value then some (done, .between)
      else if value = '"' then some (done, .string [] none)
      else if isBare value then some (done, .word [value])
      else (punctuation? value).map fun token => (token :: done, .between)

/-- A code point in a string. -/
def stepString (done : List Token) (read : List CodePoint) (half : Option Nat)
    (point : CodePoint) : Option (List Token × Place) :=
  if point = .char '"' then some (.text (settle read half).reverse :: done, .between)
  else if point = .char '\\' then some (done, .escape read half)
  else if point.toNat < 0x20 then none
  else some (done, .string (point :: settle read half) none)

/-- One step of the lexer; the tokens read so far stand last first. -/
def step : List Token × Place → CodePoint → Option (List Token × Place)
  | (done, .between), point => stepBetween done point
  | (done, .word read), point =>
      match point with
      | .char value =>
          if isBare value then some (done, .word (value :: read))
          else do
            let scalar ← ofWord? read.reverse
            stepBetween (.scalar scalar :: done) point
      | .surrogate _ => none
  | (done, .string read half), point => stepString done read half point
  | (done, .escape read half), point =>
      match point with
      | .char 'u' => some (done, .hex read half 3 0)
      | .char value =>
          (escaped? value).map fun meant => (done, .string (.char meant :: settle read half) none)
      | .surrogate _ => none
  | (done, .hex read half missing unit), point =>
      match point with
      | .char value => do
          let digit ← hexValue? value
          match missing with
          | 0 => some (done, takeUnit read half (unit * 16 + digit))
          | missing + 1 => some (done, .hex read half missing (unit * 16 + digit))
      | .surrogate _ => none

/-- Runs the lexer over a document. -/
def run : List Token × Place → List CodePoint → Option (List Token × Place)
  | state, [] => some state
  | state, point :: rest =>
      match step state point with
      | some next => run next rest
      | none => none

/-- The end of a document, which ends a bare word but no string. -/
def finish : List Token × Place → Option (List Token)
  | (done, .between) => some done.reverse
  | (done, .word read) => (ofWord? read.reverse).map fun scalar => (.scalar scalar :: done).reverse
  | _ => none

/-- The tokens of a document. -/
def ofPoints? (document : List CodePoint) : Option (List Token) :=
  (run ([], .between) document).bind finish

/-- The lexer goes on where it stopped. -/
theorem run_append (state : List Token × Place) (before after : List CodePoint) :
    run state (before ++ after) = (run state before).bind fun next => run next after := by
  induction before generalizing state with
  | nil => rfl
  | cons point rest ih =>
      simp only [List.cons_append, run]
      cases step state point with
      | none => rfl
      | some next => exact ih next

end Token

end FederatedLogin.Json

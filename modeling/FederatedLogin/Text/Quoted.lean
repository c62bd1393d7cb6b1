import FederatedLogin.Text.CodePoint
import FederatedLogin.Text.Printable

/-!
# Quoted text

Error messages show a text from outside between quotes, with everything escaped that is not
printable.  The quotes are single, unless the text holds a single quote and no double quote.
-/

namespace FederatedLogin.Text.Quoted

open FederatedLogin.Text

/-- The hexadecimal digits of a number, lower case, at least `width` of them. -/
def hexDigits (width number : Nat) : List Char :=
  let digits := Nat.toDigits 16 number
  List.replicate (width - digits.length) '0' ++ digits

/-- The quote that surrounds a text. -/
def quoteFor (source : CodeString) : Char :=
  if source.contains (.char '\'') && !source.contains (.char '"') then '"' else '\''

/-- The escape that names a position of the code space. -/
def positionEscape (position : Nat) : List Char :=
  if position < 0x100 then '\\' :: 'x' :: hexDigits 2 position
  else if position < 0x10000 then '\\' :: 'u' :: hexDigits 4 position
  else '\\' :: 'U' :: hexDigits 8 position

/-- A code point between quotes; no surrogate is printable. -/
def escape (quote : Char) : CodePoint → List Char
  | .char value =>
      if value = quote ∨ value = '\\' then ['\\', value]
      else if value = '\n' then ['\\', 'n']
      else if value = '\r' then ['\\', 'r']
      else if value = '\t' then ['\\', 't']
      else if isPrintable value then [value]
      else positionEscape value.toNat
  | .surrogate index => positionEscape (CodePoint.surrogate index).toNat

/-- The characters of a text between quotes. -/
def encode (source : CodeString) : List Char :=
  let quote := quoteFor source
  quote :: source.flatMap (escape quote) ++ [quote]

/-- Quoted text in ASCII: every other character is escaped, printable or not. -/
def toAscii (source : List Char) : List Char :=
  source.flatMap fun value =>
    if value.toNat < 0x80 then [value] else positionEscape value.toNat

end FederatedLogin.Text.Quoted

namespace FederatedLogin.Text

/-- A text between quotes. -/
def quoted (source : CodeString) : String :=
  String.ofList (Quoted.encode source)

example : quoted "it's" = "\"it's\"" := by decide +kernel
example : quoted "it's \"q\"\n" = "'it\\'s \"q\"\\n'" := by decide +kernel
example : quoted [.char 'a', .surrogate 0] = "'a\\ud800'" := by decide +kernel
example : quoted "\u0000é\u00AD\u200B" = "'\\x00é\\xad\\u200b'" := by decide +kernel

end FederatedLogin.Text

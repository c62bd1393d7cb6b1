/-!
# Lines

Two notions of a line are in use.  A line of standard input ends at a newline, at a carriage
return or at the pair of them; a line of a message ends at any of the characters that Unicode
counts as line boundaries.  Only the first line is ever looked at, so both are a prefix.
-/

namespace FederatedLogin.Text

/-- The characters that end a line of standard input. -/
def endsInputLine (value : Char) : Bool :=
  value == '\n' || value == '\r'

/-- The characters that end a line of a message. -/
def endsMessageLine (value : Char) : Bool :=
  let position := value.toNat
  (0x0A ≤ position && position ≤ 0x0D) || (0x1C ≤ position && position ≤ 0x1E) ||
    position == 0x85 || position == 0x2028 || position == 0x2029

/-- The part of a text before its first line end. -/
def firstLine (ends : Char → Bool) (source : String) : String :=
  String.ofList (source.toList.takeWhile fun value => !ends value)

example : firstLine endsInputLine "a\u0085b\r\nc" = "a\u0085b" := by decide +kernel
example : firstLine endsMessageLine "a\u0085b\r\nc" = "a" := by decide +kernel

end FederatedLogin.Text

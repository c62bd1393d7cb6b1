/-!
# Percent quoting

Each component of an address keeps a set of characters as they are and writes every other character
as the percent-quoted bytes of its UTF-8 form.  The percent sign is in every one of these sets, so
what is quoted already stays as it is.
-/

namespace FederatedLogin.Address.Quote

/-- Whether a character is an ASCII one other than blanks and controls. -/
def isVisible (value : Char) : Bool :=
  0x21 ≤ value.toNat && value.toNat ≤ 0x7E

/-- The characters that a fragment keeps. -/
def isFragmentSafe (value : Char) : Bool :=
  isVisible value && !(['"', '<', '>', '`'].contains value)

/-- The characters that a query keeps. -/
def isQuerySafe (value : Char) : Bool :=
  isVisible value && !(['"', '#', '<', '>'].contains value)

/-- The characters that a path keeps. -/
def isPathSafe (value : Char) : Bool :=
  isQuerySafe value && !(['?', '`', '\x7b', '\x7d'].contains value)

/-- The characters that the user information keeps. -/
def isUserinfoSafe (value : Char) : Bool :=
  isPathSafe value && !(['/', ';', '=', '@', '[', '\\', ']', '^', '|'].contains value)

/-- The characters that a host name keeps. -/
def isHostSafe (value : Char) : Bool :=
  value.isAlphanum ||
    ['-', '.', '_', '~', '!', '$', '&', '\'', '(', ')', '*', '+', ',', ';', '=', '"', '`', '\x7b',
      '\x7d', '%', '|', '\\'].contains value

/-- A hexadecimal digit, upper case. -/
def hexDigit (value : Nat) : Char :=
  if value < 10 then Char.ofNat ('0'.toNat + value) else Char.ofNat ('A'.toNat + (value - 10))

/-- A byte in percent quoting. -/
def quoteByte (byte : UInt8) : List Char :=
  ['%', hexDigit (byte.toNat / 16), hexDigit (byte.toNat % 16)]

/-- A character of a component. -/
def quoteChar (safe : Char → Bool) (value : Char) : List Char :=
  if safe value then [value] else (String.utf8EncodeChar value).flatMap quoteByte

/-- A component. -/
def quote (safe : Char → Bool) (component : List Char) : List Char :=
  component.flatMap (quoteChar safe)

/-- What consists of safe characters is not changed. -/
theorem quote_eq_self {safe : Char → Bool} {component : List Char}
    (allSafe : ∀ value ∈ component, safe value) : quote safe component = component := by
  induction component with
  | nil => rfl
  | cons value rest ih =>
      have restEq := ih fun other otherMem => allSafe other (by simp [otherMem])
      simp only [quote] at restEq ⊢
      simp [List.flatMap_cons, quoteChar, allSafe value (by simp), restEq]

end FederatedLogin.Address.Quote

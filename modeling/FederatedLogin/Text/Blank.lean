/-!
# Blank characters

Surrounding blanks are dropped from settings and tokens.  Two sets are in use, and they differ in
the four separators U+001C to U+001F: `isBlank` holds them, `isNumberBlank`, which the number
readers go by, does not.
-/

namespace FederatedLogin.Text

/-- The blanks that may surround a number. -/
def isNumberBlank (value : Char) : Bool :=
  let position := value.toNat
  (0x09 ≤ position && position ≤ 0x0D) || position == 0x20 || position == 0x85 ||
    position == 0xA0 || position == 0x1680 || (0x2000 ≤ position && position ≤ 0x200A) ||
    position == 0x2028 || position == 0x2029 || position == 0x202F || position == 0x205F ||
    position == 0x3000

/-- The blanks that are dropped around a text. -/
def isBlank (value : Char) : Bool :=
  isNumberBlank value || (0x1C ≤ value.toNat && value.toNat ≤ 0x1F)

/-- Drops the last characters that satisfy a predicate. -/
def dropEndWhile (drops : Char → Bool) (source : List Char) : List Char :=
  (source.reverse.dropWhile drops).reverse

/-- Drops the first and the last characters that satisfy a predicate. -/
def trimWhile (drops : Char → Bool) (source : List Char) : List Char :=
  dropEndWhile drops (source.dropWhile drops)

/-- A text without its surrounding blanks. -/
def strip (source : String) : String :=
  String.ofList (trimWhile isBlank source.toList)

example : strip "\u001C a b\u3000" = "a b" := by decide +kernel
example : strip "\u200Ba\uFEFF" = "\u200Ba\uFEFF" := by decide +kernel

end FederatedLogin.Text

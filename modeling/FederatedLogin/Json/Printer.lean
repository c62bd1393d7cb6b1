import FederatedLogin.Json.Value
import FederatedLogin.Number.Shortest
import FederatedLogin.Text.Quoted

/-!
# Writing JSON

A `Layout` says what stands between items, between a name and its value, and which characters a
string escapes.  Two layouts are in use: `compact` for requests, which leaves all characters but
quotes, backslashes and controls as they are, and `ascii` for the lines that are printed, where
everything outside printable ASCII is escaped.
-/

namespace FederatedLogin.Json

open FederatedLogin.Text FederatedLogin.Number

/-- How a value is laid out. -/
structure Layout where
  betweenItems : List Char
  afterName : List Char
  /-- Whether characters outside printable ASCII are escaped. -/
  escapesNonAscii : Bool

namespace Layout

/-- No spaces, and no more escapes than needed. -/
def compact : Layout :=
  ⟨[','], [':'], false⟩

/-- A space after each comma and colon, and printable ASCII only. -/
def ascii : Layout :=
  ⟨[',', ' '], [':', ' '], true⟩

end Layout

namespace Printer

/-- The escape of one unit. -/
def unitEscape (unit : Nat) : List Char :=
  '\\' :: 'u' :: Quoted.hexDigits 4 unit

/-- The escape of a position: one unit, or the two halves of a surrogate pair. -/
def positionEscape (position : Nat) : List Char :=
  if position < 0x10000 then unitEscape position
  else
    let offset := position - 0x10000
    unitEscape (0xD800 + offset / 0x400) ++ unitEscape (0xDC00 + offset % 0x400)

/-- A code point in a string.  A surrogate is no character, so it is escaped in every layout. -/
def escape (layout : Layout) (point : CodePoint) : List Char :=
  if point = .char '"' then ['\\', '"']
  else if point = .char '\\' then ['\\', '\\']
  else if point = .char '\n' then ['\\', 'n']
  else if point = .char '\r' then ['\\', 'r']
  else if point = .char '\t' then ['\\', 't']
  else if point = .char '\x08' then ['\\', 'b']
  else if point = .char '\x0C' then ['\\', 'f']
  else if point.toNat < 0x20 || (layout.escapesNonAscii && 0x7E < point.toNat) then
    positionEscape point.toNat
  else
    match point with
    | .char value => [value]
    | .surrogate _ => positionEscape point.toNat

/-- A string between its quotes. -/
def string (layout : Layout) (points : List CodePoint) : List Char :=
  '"' :: points.flatMap (escape layout) ++ ['"']

/-- A real number; the ones that are not finite have names of their own. -/
def real (value : Float) : List Char :=
  let shown := Shortest.text value
  if shown = "nan" then "NaN".toList
  else if shown = "inf" then "Infinity".toList
  else if shown = "-inf" then "-Infinity".toList
  else shown.toList

mutual

/-- The characters of a value. -/
def value (layout : Layout) : Value → List Char
  | .null => "null".toList
  | .bool true => "true".toList
  | .bool false => "false".toList
  | .integer number => (toString number).toList
  | .real number => real number
  | .string points => string layout points
  | .array members => '[' :: items layout members ++ [']']
  | .object members => '\x7b' :: pairs layout members ++ ['\x7d']

/-- The items of an array. -/
def items (layout : Layout) : List Value → List Char
  | [] => []
  | [item] => value layout item
  | item :: rest => value layout item ++ layout.betweenItems ++ items layout rest

/-- The members of an object. -/
def pairs (layout : Layout) : List (Key × Value) → List Char
  | [] => []
  | [(name, member)] => string layout name ++ layout.afterName ++ value layout member
  | (name, member) :: rest =>
      string layout name ++ layout.afterName ++ value layout member ++ layout.betweenItems ++
        pairs layout rest

end

end Printer

/-- The text of a value in a layout. -/
def Value.print (layout : Layout) (source : Value) : String :=
  String.ofList (Printer.value layout source)

example :
    (Value.record [("a", .text "é\"\n"), ("b", .array [.null, .integer (-5)])]).print .compact =
    "\x7b\"a\":\"é\\\"\\n\",\"b\":[null,-5]\x7d" := by
  decide +kernel

example : (Value.text "é😀\x7f").print .ascii = "\"\\u00e9\\ud83d\\ude00\\u007f\"" := by
  decide +kernel

end FederatedLogin.Json

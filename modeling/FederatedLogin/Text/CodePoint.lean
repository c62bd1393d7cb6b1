/-!
# Code points

A JSON document may name any Unicode code point in its strings, the surrogates U+D800 to U+DFFF
included, and tells two strings apart that differ only there.  `CodePoint` therefore splits the
code space into the scalar values, which are Lean characters, and the 2048 surrogates.

A text that may come from such a document is a `CodeString`, which keeps its surrogates.  Every
ordinary string is one as well, without any.
-/

namespace FederatedLogin.Text

/-- A Unicode code point: a scalar value, or one of the surrogates, numbered from zero. -/
inductive CodePoint where
  | char (value : Char)
  | surrogate (index : Fin 0x800)
  deriving DecidableEq, Repr, Inhabited

namespace CodePoint

/-- The replacement character U+FFFD, which stands for bytes that encode nothing. -/
def replacement : Char := '\uFFFD'

/-- The position of a code point in the code space. -/
def toNat : CodePoint → Nat
  | .char value => value.toNat
  | .surrogate index => 0xD800 + index.val

/-- The code point at a position, if the position lies in the code space. -/
def ofNat? (position : Nat) : Option CodePoint :=
  if h : position.isValidChar then
    some (.char (Char.ofNatAux position h))
  else if h : 0xD800 ≤ position ∧ position - 0xD800 < 0x800 then
    some (.surrogate ⟨position - 0xD800, h.2⟩)
  else
    none

/-- A capital of ASCII made small; all else stays. -/
def lower : CodePoint → CodePoint
  | .char value => .char value.toLower
  | point => point

/-- Whether a code point has its place in a text of characters. -/
def isScalar : CodePoint → Bool
  | .char _ => true
  | .surrogate _ => false

end CodePoint

/-- A text of any code points. -/
abbrev CodeString := List CodePoint

namespace CodePoint

/-- The code points of a text; none of them is a surrogate. -/
def ofText (source : String) : CodeString :=
  source.toList.map .char

theorem ofText_inj {source other : String} : ofText source = ofText other ↔ source = other := by
  constructor
  · intro same
    exact String.toList_inj.mp ((List.map_inj_right fun _ _ => CodePoint.char.inj).mp same)
  · exact congrArg ofText

theorem isScalar_of_mem_ofText {source : String} {point : CodePoint}
    (pointMem : point ∈ ofText source) : point.isScalar := by
  obtain ⟨value, _, rfl⟩ := List.mem_map.mp pointMem
  rfl

end CodePoint

instance : Coe String CodeString :=
  ⟨CodePoint.ofText⟩

/-- Whether UTF-8 can encode a text: it has no place for surrogates. -/
def CodeString.isEncodable (text : CodeString) : Bool :=
  text.all CodePoint.isScalar

/-- The first of several texts that UTF-8 cannot encode. -/
def CodeString.unencodable? (texts : List CodeString) : Option CodeString :=
  texts.find? fun text => !text.isEncodable

@[simp]
theorem CodeString.isEncodable_nil : isEncodable [] :=
  rfl

/-- Ordinary text can be encoded. -/
@[simp]
theorem CodeString.isEncodable_ofText (source : String) :
    isEncodable (CodePoint.ofText source) := by
  rw [isEncodable, List.all_eq_true]
  exact fun _ pointMem => CodePoint.isScalar_of_mem_ofText pointMem

/-- A text that can be encoded is an ordinary one. -/
theorem CodeString.exists_of_isEncodable {text : CodeString} (encodable : text.isEncodable) :
    ∃ source, text = CodePoint.ofText source := by
  suffices characters : ∃ values : List Char, text = values.map .char by
    obtain ⟨values, rfl⟩ := characters
    exact ⟨String.ofList values, by rw [CodePoint.ofText, String.toList_ofList]⟩
  induction text with
  | nil => exact ⟨[], rfl⟩
  | cons point rest ih =>
      rw [isEncodable, List.all_cons, Bool.and_eq_true] at encodable
      obtain ⟨values, rfl⟩ := ih encodable.2
      cases point with
      | char value => exact ⟨value :: values, rfl⟩
      | surrogate index => cases encodable.1

theorem CodeString.unencodable?_eq_none_iff {texts : List CodeString} :
    unencodable? texts = none ↔ ∀ text ∈ texts, text.isEncodable := by
  simp [unencodable?]

theorem CodeString.isEncodable_append (source other : CodeString) :
    isEncodable (source ++ other) = (isEncodable source && isEncodable other) :=
  List.all_append

end FederatedLogin.Text

import FederatedLogin.Text.CodePoint

/-!
# UTF-8

Bytes are read by one small machine.  Between characters it looks at the leading byte, inside a
character it remembers how many bytes are owed, which range the next one must lie in, and the bits
read so far.  `advance` is one step of it.

Two readers drive the machine.  `decode?` is strict: a byte out of place refuses the whole input;
it admits encoded surrogates on request of its caller.  `decodeReplacing` never fails: every
maximal ill-formed part becomes one replacement character, and the byte that broke the part is
read again as a leading byte.
-/

namespace FederatedLogin.Text.Utf8

open FederatedLogin.Text

/-- The inside of a character: the next byte lies in `[low, high]` and `more` bytes follow it. -/
structure Pending where
  more : Nat
  low : Nat
  high : Nat
  bits : Nat
  deriving DecidableEq, Repr

/-- What one byte does to the machine. -/
inductive Advance where
  | finished (position : Nat)
  | inside (pending : Pending)
  | broken
  deriving DecidableEq, Repr

/-- A byte between characters.  The second byte after E0, ED, F0 and F4 has a narrower range, which
rules out overlong forms, surrogates and positions beyond U+10FFFF. -/
def lead (surrogates : Bool) (byte : Nat) : Advance :=
  if byte < 0x80 then .finished byte
  else if byte < 0xC2 then .broken
  else if byte < 0xE0 then .inside ⟨0, 0x80, 0xBF, byte - 0xC0⟩
  else if byte = 0xE0 then .inside ⟨1, 0xA0, 0xBF, 0⟩
  else if byte = 0xED then .inside ⟨1, 0x80, if surrogates then 0xBF else 0x9F, 0xD⟩
  else if byte < 0xF0 then .inside ⟨1, 0x80, 0xBF, byte - 0xE0⟩
  else if byte = 0xF0 then .inside ⟨2, 0x90, 0xBF, 0⟩
  else if byte < 0xF4 then .inside ⟨2, 0x80, 0xBF, byte - 0xF0⟩
  else if byte = 0xF4 then .inside ⟨2, 0x80, 0x8F, 4⟩
  else .broken

/-- A byte inside a character. -/
def Pending.continue (pending : Pending) (byte : Nat) : Advance :=
  if pending.low ≤ byte ∧ byte ≤ pending.high then
    let bits := pending.bits * 64 + (byte - 0x80)
    match pending.more with
    | 0 => .finished bits
    | more + 1 => .inside ⟨more, 0x80, 0xBF, bits⟩
  else
    .broken

/-- One step of the machine; no pending character means that it stands between characters. -/
def advance (surrogates : Bool) : Option Pending → Nat → Advance
  | none, byte => lead surrogates byte
  | some pending, byte => pending.continue byte

/-- The strict reader, with the code points read so far, last first. -/
def decodeFrom? (surrogates : Bool) :
    Option Pending → List CodePoint → List UInt8 → Option CodeString
  | none, done, [] => some done.reverse
  | some _, _, [] => none
  | state, done, byte :: rest =>
      match advance surrogates state byte.toNat with
      | .finished position =>
          match CodePoint.ofNat? position with
          | some point => decodeFrom? surrogates none (point :: done) rest
          | none => none
      | .inside pending => decodeFrom? surrogates (some pending) done rest
      | .broken => none

/-- The code points of well-formed bytes; with `surrogates`, encoded surrogates are admitted. -/
def decode? (surrogates : Bool) (bytes : List UInt8) : Option CodeString :=
  decodeFrom? surrogates none [] bytes

/-- What the forgiving reader makes of one byte: the characters it can give out now, last first, and
the state it is left in.  A byte that breaks a character is read again as a leading byte. -/
def replaceStep (state : Option Pending) (byte : Nat) : List Char × Option Pending :=
  match advance false state byte with
  | .finished position => ([Char.ofNat position], none)
  | .inside pending => ([], some pending)
  | .broken =>
      match state with
      | none => ([CodePoint.replacement], none)
      | some _ =>
          match lead false byte with
          | .finished position => ([Char.ofNat position, CodePoint.replacement], none)
          | .inside pending => ([CodePoint.replacement], some pending)
          | .broken => ([CodePoint.replacement, CodePoint.replacement], none)

/-- The forgiving reader, with the characters read so far, last first. -/
def replaceFrom : Option Pending → List Char → List UInt8 → List Char
  | none, done, [] => done.reverse
  | some _, done, [] => (CodePoint.replacement :: done).reverse
  | state, done, byte :: rest =>
      let (fresh, next) := replaceStep state byte.toNat
      replaceFrom next (fresh ++ done) rest

/-- The text of any bytes, one replacement character for every maximal ill-formed part. -/
def decodeReplacing (bytes : List UInt8) : String :=
  String.ofList (replaceFrom none [] bytes)

/-- The bytes of a text. -/
def encode (source : String) : List UInt8 :=
  source.toList.flatMap String.utf8EncodeChar

/-- What has been read is in front of what is still to be read. -/
theorem replaceFrom_eq (state : Option Pending) (done : List Char) (bytes : List UInt8) :
    replaceFrom state done bytes = done.reverse ++ replaceFrom state [] bytes := by
  induction bytes generalizing state done with
  | nil => cases state <;> simp [replaceFrom]
  | cons byte rest ih =>
      simp only [replaceFrom, List.append_nil]
      rw [ih _ (_ ++ done), ih _ (replaceStep state byte.toNat).1]
      simp

example : decodeReplacing [0x61, 0xE2, 0x82, 0x62] = "a\uFFFDb" := by decide +kernel
example : decodeReplacing [0xED, 0xA0, 0x80] = "\uFFFD\uFFFD\uFFFD" := by decide +kernel
example : decode? true [0xED, 0xA0, 0x80] = some [.surrogate 0] := by decide +kernel
example : decode? false [0xED, 0xA0, 0x80] = none := by decide +kernel
example : decode? false (encode "aé€😀") = some "aé€😀" := by decide +kernel

end FederatedLogin.Text.Utf8

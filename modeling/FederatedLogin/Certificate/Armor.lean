import FederatedLogin.Certificate.Base64
import FederatedLogin.Text.Utf8

/-!
# Armored blocks

Bytes are kept in a text as blocks between marked lines, in base64.  Whatever stands outside the
blocks is a comment.  In a block, an empty line divides a header from the letters; a block in whose
first lines there is a colon has a header.

A text is read in strokes: a line, or as much of a long line as one stroke can take.  A zero byte
hides what follows it in its stroke, and a stroke with nothing in front of it ends the text.
-/

namespace FederatedLogin.Certificate

open FederatedLogin.Text

/-- A block: what it is called, its header and its bytes. -/
structure Block where
  label : List UInt8
  header : List (List UInt8)
  bytes : List UInt8
  deriving DecidableEq, Repr

namespace Armor

/-- The end of a line. -/
def newline : UInt8 :=
  0x0A

/-- The most bytes that one stroke takes. -/
def maxStroke : Nat :=
  254

/-- Reads one stroke, of at most as many bytes as said, and what follows it. -/
def splitStroke : Nat → List UInt8 → List UInt8 × List UInt8
  | 0, rest => ([], rest)
  | _, [] => ([], [])
  | room + 1, byte :: rest =>
      if byte = newline then ([byte], rest)
      else
        let (stroke, rest) := splitStroke room rest
        (byte :: stroke, rest)

/-- The strokes of some bytes; each takes at least one byte of the measure. -/
def strokesWithin : Nat → List UInt8 → List (List UInt8)
  | 0, _ => []
  | measure + 1, bytes =>
      let (stroke, rest) := splitStroke maxStroke bytes
      let visible := stroke.takeWhile (· != 0)
      if visible.isEmpty then [] else visible :: strokesWithin measure rest

/-- The strokes in which a text is read. -/
def strokes (source : List UInt8) : List (List UInt8) :=
  strokesWithin source.length source

/-- Whether a stroke left a part of its line unread. -/
def isPartial (stroke : List UInt8) : Bool :=
  stroke.length == maxStroke && stroke.getLast? != some newline

/-- Whether a byte at the end of a line belongs to it: blanks, controls and everything outside ASCII
do not. -/
def isInk (byte : UInt8) : Bool :=
  0x20 < byte && byte < 0x80

/-- A stroke without what stands behind its last ink. -/
def trimmed (stroke : List UInt8) : List UInt8 :=
  (stroke.reverse.dropWhile fun byte => !isInk byte).reverse

/-- The start of a line that opens a block. -/
def openingMark : List UInt8 :=
  Utf8.encode "-----BEGIN "

/-- The start of a line that closes a block. -/
def closingMark : List UInt8 :=
  Utf8.encode "-----END "

/-- The end of a line that opens or closes a block. -/
def endMark : List UInt8 :=
  Utf8.encode "-----"

/-- The mark that tells the order of bytes. -/
def orderMark : List UInt8 :=
  Utf8.encode "\uFEFF"

/-- The length of a full line of letters. -/
def fullLine : Nat :=
  64

/-- The label of a line that opens a block. -/
def opening? (line : List UInt8) : Option (List UInt8) :=
  if openingMark.isPrefixOf line && endMark.isSuffixOf (line.drop openingMark.length) then
    some ((line.drop openingMark.length).take
      (line.length - openingMark.length - endMark.length))
  else
    none

/-- A line without the order mark that may stand in front of it. -/
def withoutOrderMark (line : List UInt8) : List UInt8 :=
  if orderMark.isPrefixOf line then line.drop orderMark.length else line

/-- What the lines of a block that were read so far are taken for. -/
inductive Part where
  /-- A header or letters; that is not known yet. -/
  | either
  | header
  | letters
  deriving DecidableEq, Repr

/-- A block that is still open. -/
structure OpenBlock where
  label : List UInt8
  part : Part := .either
  /-- The lines in front of the empty line, last first. -/
  header : List (List UInt8) := []
  /-- The lines behind the empty line, last first. -/
  letters : List (List UInt8) := []
  /-- Whether only the end of the block may follow. -/
  isComplete : Bool := false
  /-- Whether the stroke before left a part of its line unread. -/
  afterPartial : Bool := false
  deriving DecidableEq, Repr

namespace OpenBlock

/-- A block after a look at a stroke: a colon means that there is a header. -/
def noticing (block : OpenBlock) (stroke : List UInt8) : OpenBlock :=
  if block.part = .either ∧ stroke.contains 0x3A then { block with part := .header } else block

/-- A block that is closed; it has to hold something. -/
def close? (block : OpenBlock) : Option Block :=
  let (header, letters) :=
    if block.part = .either then ([], block.header) else (block.header, block.letters)
  match Base64.decode? letters.reverse.flatten with
  | some (first :: rest) => some ⟨block.label, header.reverse, first :: rest⟩
  | _ => none

/-- A block after an empty line, of which there is at most one.  The end of a long line is none. -/
def divide? (block : OpenBlock) : Option OpenBlock :=
  if block.afterPartial then some block
  else if block.part = .letters then none
  else some { block with part := .letters }

/-- A block after a line.  After an empty line the lines have to be full, up to the last one. -/
def extend? (block : OpenBlock) (line : List UInt8) : Option OpenBlock :=
  if block.isComplete then none
  else if block.part = .letters then
    if fullLine < line.length then none
    else
      some { block with
        letters := line :: block.letters
        isComplete := line.length < fullLine }
  else
    some { block with header := line :: block.header }

end OpenBlock

/-- Where a reader of blocks stands: outside, at the first stroke there or behind it, or in a
block. -/
inductive Place where
  | outside (isFirst : Bool)
  | inside (block : OpenBlock)
  deriving DecidableEq, Repr

/-- Reads one stroke; the blocks read so far stand last first. -/
def readStroke : List Block × Place → List UInt8 → Option (List Block × Place)
  | (blocks, .outside isFirst), stroke =>
      match opening? (trimmed (if isFirst then withoutOrderMark stroke else stroke)) with
      | some label => some (blocks, .inside { label })
      | none => some (blocks, .outside false)
  | (blocks, .inside block), stroke =>
      let block := block.noticing stroke
      let line := trimmed stroke
      let goOn (next : Option OpenBlock) : Option (List Block × Place) :=
        next.map fun next => (blocks, .inside { next with afterPartial := isPartial stroke })
      if line.isEmpty then goOn block.divide?
      else if closingMark.isPrefixOf line then
        if line = closingMark ++ block.label ++ endMark then
          block.close?.map fun closed => (closed :: blocks, .outside true)
        else none
      else goOn (block.extend? line)

/-- The blocks of a text, if all of them are in order. -/
def blocks? (source : List UInt8) : Option (List Block) :=
  match (strokes source).foldlM readStroke ([], .outside true) with
  | some (blocks, .outside _) => some blocks.reverse
  | _ => none

end Armor

end FederatedLogin.Certificate

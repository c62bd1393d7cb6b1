import FederatedLogin.Certificate.Armor
import FederatedLogin.Certificate.Form
import FederatedLogin.Text.Digit

/-!
# Private keys

A private key may stand in a bundle.  It has to be a key of the family that its label names, either
in the form of the family or in the common envelope of all families.  A key that is enciphered is
not looked at, but its header has to name a cipher with a vector to start from.
-/

namespace FederatedLogin.Certificate.Key

open FederatedLogin.Text FederatedLogin.Certificate.Reader

/-- The families of keys. -/
inductive Family where
  | rsa
  | rsaPss
  | dsa
  | diffieHellman
  | diffieHellmanX942
  | elliptic
  | x25519
  | x448
  | ed25519
  | ed448
  deriving DecidableEq, Repr

/-- The identifiers of the families. -/
def identifiers : List (List UInt8 × Family) :=
  [([0x2A, 0x86, 0x48, 0x86, 0xF7, 0x0D, 0x01, 0x01, 0x01], .rsa),
   ([0x2A, 0x86, 0x48, 0x86, 0xF7, 0x0D, 0x01, 0x01, 0x0A], .rsaPss),
   ([0x2A, 0x86, 0x48, 0xCE, 0x38, 0x04, 0x01], .dsa),
   ([0x2A, 0x86, 0x48, 0x86, 0xF7, 0x0D, 0x01, 0x03, 0x01], .diffieHellman),
   ([0x2A, 0x86, 0x48, 0xCE, 0x3E, 0x02, 0x01], .diffieHellmanX942),
   ([0x2A, 0x86, 0x48, 0xCE, 0x3D, 0x02, 0x01], .elliptic),
   ([0x2B, 0x65, 0x6E], .x25519), ([0x2B, 0x65, 0x6F], .x448),
   ([0x2B, 0x65, 0x70], .ed25519), ([0x2B, 0x65, 0x71], .ed448)]

/-- The names of the families in labels, in small letters. -/
def familyNames : List (String × Family) :=
  [("rsa", .rsa), ("rsaencryption", .rsa), ("rsa-pss", .rsaPss),
   ("dsa", .dsa), ("dsa-old", .dsa), ("dsaencryption", .dsa),
   ("dh", .diffieHellman), ("dhx", .diffieHellmanX942), ("x9.42 dh", .diffieHellmanX942),
   ("ec", .elliptic), ("id-ecpublickey", .elliptic), ("sm2", .elliptic),
   ("x25519", .x25519), ("x448", .x448), ("ed25519", .ed25519), ("ed448", .ed448)]

/-- Reads as many numbers as said.  They may be written with more bytes than they need. -/
def numbers (count : Nat) : List Field :=
  List.replicate count (required (anyOfType Universal.integer))

/-- Reads the version of a form. -/
def version : Field :=
  required (ofType Universal.integer)

/-- Reads a key of RSA. -/
def rsaForm : Reader :=
  sequence (version :: numbers 8 ++ [optional (repeated Universal.row (sequence (numbers 3)))])

/-- Reads a key of DSA. -/
def dsaForm : Reader :=
  sequence (version :: numbers 5)

/-- Reads a key on a curve, which is named in it if `isNamed` says so. -/
def ellipticForm (isNamed : Bool) : Reader :=
  sequence
    [version, required (ofType Universal.octets),
     { reader := explicit 0 any, isOptional := !isNamed },
     optional (explicit 1 (ofType Universal.bits))]

/-- Reads the envelope of a key. -/
def envelopeForm : Reader :=
  sequence
    [version, required Form.algorithm, required (ofType Universal.octets),
     optional (implicit 0 (repeated Universal.set any))]

/-- The contents of the elements at the front of some bytes, as many as said. -/
def contents : Nat → List UInt8 → List (List UInt8)
  | 0, _ => []
  | count + 1, bytes =>
      match Header.read? bytes with
      | some (⟨_, _, some length⟩, rest) => rest.take length :: contents count (rest.drop length)
      | _ => []

/-- Whether the content of an envelope is a key of a family. -/
def isSealed (family : Family) (content : List UInt8) : Bool :=
  match family with
  | .rsa | .rsaPss => (rsaForm.after? content).isSome
  | .dsa | .diffieHellman | .diffieHellmanX942 => (Reader.after? (ofType Universal.integer) content).isSome
  | .elliptic => ((ellipticForm false).after? content).isSome
  | .x25519 | .ed25519 => content.length == 34 && content.take 2 == [0x04, 0x20]
  | .x448 => content.length == 58 && content.take 2 == [0x04, 0x38]
  | .ed448 => content.length == 59 && content.take 2 == [0x04, 0x39]

/-- The family of the key in an envelope, if it is in order. -/
def sealedFamily? (bytes : List UInt8) : Option Family :=
  if (envelopeForm.after? bytes).isNone then none
  else
    match contents 1 bytes with
    | [inside] =>
        match contents 3 inside with
        | [_, algorithm, key] => do
            let identifier ← (contents 1 algorithm).head?
            let family ← identifiers.lookup identifier
            if isSealed family key then some family else none
        | _ => none
    | _ => none

/-- The family of the key that bytes start with. -/
def family? (bytes : List UInt8) : Option Family :=
  match sealedFamily? bytes with
  | some family => some family
  | none =>
      if (rsaForm.after? bytes).isSome then some .rsa
      else if (dsaForm.after? bytes).isSome then some .dsa
      else if ((ellipticForm true).after? bytes).isSome then some .elliptic
      else none

/-- What the labels of private keys hold. -/
def labelMark : List UInt8 :=
  Utf8.encode "PRIVATE KEY"

/-- What stands in a label before the mark of private keys, if the mark is there. -/
def beforeMark? : List UInt8 → Option (List UInt8)
  | [] => none
  | first :: rest =>
      if labelMark.isPrefixOf (first :: rest) then some []
      else (beforeMark? rest).map fun before => first :: before

/-- The label of a private key that says in its content how it is enciphered. -/
def cipheredLabel : List UInt8 :=
  Utf8.encode "ENCRYPTED PRIVATE KEY"

/-- Whether a label admits keys of a family.  One that names no family admits all. -/
def admits (label : List UInt8) (family : Family) : Bool :=
  let letters := ((beforeMark? label).getD []).map fun byte => (Char.ofNat byte.toNat).toLower
  match letters.getLast? with
  | some ' ' =>
      match familyNames.lookup (String.ofList letters.dropLast) with
      | some named => named == family
      | none => true
  | _ => true

/-- Ciphers by their names and modes.  Their vectors have sixteen bytes. -/
def ciphersWith (names modes : List String) : List (String × Nat) :=
  names.flatMap fun name => modes.map fun mode => (name ++ "-" ++ mode, 16)

/-- The ciphers that a header may name, in small letters, with the lengths of their vectors. -/
def ciphers : List (String × Nat) :=
  [("des-cbc", 8), ("des-ede-cbc", 8), ("des-ede3-cbc", 8), ("des3", 8),
   ("bf-cbc", 8), ("cast5-cbc", 8), ("rc2-cbc", 8),
   ("aes128", 16), ("aes192", 16), ("aes256", 16)] ++
  ciphersWith ["seed", "sm4"] ["cbc", "cfb", "ofb"] ++ ciphersWith ["sm4"] ["ctr"] ++
  ciphersWith
    ["aes-128", "aes-192", "aes-256", "camellia-128", "camellia-192", "camellia-256",
     "aria-128", "aria-192", "aria-256"]
    ["cbc", "cfb", "cfb1", "cfb8", "ofb", "ctr"]

/-- Whether a character is a blank in a line. -/
def isGap (value : Char) : Bool :=
  value == ' ' || value == '\t'

/-- What follows a word and blanks in a line. -/
def afterWord? (word : String) (line : List Char) : Option (List Char) :=
  if word.toList.isPrefixOf line then some ((line.drop word.length).dropWhile isGap) else none

/-- Whether a line names a cipher and its vector. -/
def namesCipher (line : List Char) : Bool :=
  match afterWord? "DEK-Info:" line with
  | none => false
  | some rest =>
      let name := rest.takeWhile fun value => !isGap value && value != ','
      match ciphers.lookup (String.ofList (name.map Char.toLower)),
          (rest.drop name.length).dropWhile isGap with
      | some length, ',' :: vector =>
          2 * length ≤ (vector.takeWhile fun value => (hexValue? value).isSome).length
      | _, _ => false

/-- Whether a header says how its block is enciphered. -/
def isCipherHeader (header : List (List UInt8)) : Bool :=
  match header.map fun line => line.map fun byte => Char.ofNat byte.toNat with
  | first :: second :: _ =>
      (((afterWord? "Proc-Type:" first).bind (afterWord? "4,")).bind (afterWord? "ENCRYPTED")) ==
          some [] &&
        namesCipher second
  | _ => false

/-- Whether a block with a private key is in order. -/
def isInOrder (block : Block) : Bool :=
  if !block.header.isEmpty then isCipherHeader block.header
  else if block.label = cipheredLabel then true
  else (family? block.bytes).any (admits block.label)

end FederatedLogin.Certificate.Key

import FederatedLogin.Certificate.Armor
import FederatedLogin.Certificate.Form
import FederatedLogin.Certificate.Key

/-!
# Certificate bundles

A bundle is a text with armored blocks.  Certificates, lists of revoked certificates and private
keys have to be in order; blocks with other labels are passed over.  A bundle can be loaded if at
least one of its blocks is a certificate or a list of revoked ones.

None of the blocks is deciphered, so what is enciphered is no certificate.
-/

namespace FederatedLogin.Certificate

open FederatedLogin.Text

/-- What a block holds by its label. -/
inductive Cargo where
  | certificate
  | trustedCertificate
  | revocationList
  | privateKey
  | other
  deriving DecidableEq, Repr

namespace Block

/-- The labels of blocks that hold something known. -/
def cargoLabels : List (String × Cargo) :=
  [("CERTIFICATE", .certificate), ("X509 CERTIFICATE", .certificate),
   ("TRUSTED CERTIFICATE", .trustedCertificate), ("X509 CRL", .revocationList)]

/-- What a block holds. -/
def cargo (block : Block) : Cargo :=
  match cargoLabels.find? fun (label, _) => block.label == Utf8.encode label with
  | some (_, cargo) => cargo
  | none => if (Key.beforeMark? block.label).isSome then .privateKey else .other

/-- Whether a block is in order. -/
def isInOrder (block : Block) : Bool :=
  match block.cargo with
  | .certificate => block.header.isEmpty && Form.isCertificate block.bytes
  | .trustedCertificate => block.header.isEmpty && Form.isTrusted block.bytes
  | .revocationList => block.header.isEmpty && Form.isRevocationList block.bytes
  | .privateKey => Key.isInOrder block
  | .other => true

/-- Whether a block is something to load. -/
def isLoaded (block : Block) : Bool :=
  match block.cargo with
  | .certificate | .trustedCertificate | .revocationList => true
  | .privateKey | .other => false

end Block

/-- Whether a bundle can be loaded. -/
def isLoadable (source : String) : Bool :=
  match Armor.blocks? (Utf8.encode source) with
  | some blocks => blocks.all Block.isInOrder && blocks.any Block.isLoaded
  | none => false

end FederatedLogin.Certificate

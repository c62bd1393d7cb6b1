import FederatedLogin.Certificate.Reader

/-!
# The forms of certificates

The readers of certificates, of lists of revoked certificates, and of what a bundle may say about
the trust in a certificate.  They say whether bytes have the right form, without a look at what is
certified: dates, signatures and keys are taken as they are.
-/

namespace FederatedLogin.Certificate.Form

open FederatedLogin.Certificate.Reader

/-- Reads an identifier of an algorithm. -/
def algorithm : Reader :=
  sequence [required (ofType Universal.identifier), optional any]

/-- Reads an attribute of a name: its type and its value, which is a text of some alphabet. -/
def nameAttribute : Reader :=
  sequence
    [required (ofType Universal.identifier),
     required (ofTypes Universal.nameValues Content.isText)]

/-- Reads a name. -/
def name : Reader :=
  repeated Universal.row (repeated Universal.set nameAttribute)

/-- Reads a point in time. -/
def time : Reader :=
  ofTypes Universal.times fun _ _ => true

/-- Reads a period of validity. -/
def validity : Reader :=
  sequence [required time, required time]

/-- Reads a public key. -/
def publicKey : Reader :=
  sequence [required algorithm, required (ofType Universal.bits)]

/-- Reads an extension. -/
def extension : Reader :=
  sequence
    [required (ofType Universal.identifier), optional (ofType Universal.boolean),
     required (ofType Universal.octets)]

/-- Reads extensions. -/
def extensions : Reader :=
  repeated Universal.row extension

/-- Reads what a certificate certifies. -/
def certified : Reader :=
  sequence
    [optional (explicit 0 (ofType Universal.integer)), required (ofType Universal.integer),
     required algorithm, required name, required validity, required name, required publicKey,
     optional (implicit 1 (ofType Universal.bits)), optional (implicit 2 (ofType Universal.bits)),
     optional (explicit 3 extensions)]

/-- Reads what is signed, and the signature. -/
def signed (content : Reader) : Reader :=
  sequence [required content, required algorithm, required (ofType Universal.bits)]

/-- Reads a certificate. -/
def certificate : Reader :=
  signed certified

/-- Reads a revoked certificate. -/
def revoked : Reader :=
  sequence [required (ofType Universal.integer), required time, optional extensions]

/-- Reads a list of revoked certificates. -/
def revocationList : Reader :=
  signed (sequence
    [optional (ofType Universal.integer), required algorithm, required name, required time,
     optional time, optional (repeated Universal.row revoked), optional (explicit 0 extensions)])

/-- Reads what a certificate is trusted for. -/
def trust : Reader :=
  sequence
    [optional (repeated Universal.row (ofType Universal.identifier)),
     optional (implicit 0 (repeated Universal.row (ofType Universal.identifier))),
     optional (ofType Universal.utf8Text), optional (ofType Universal.octets),
     optional (implicit 1 (repeated Universal.row algorithm))]

/-- Whether bytes start with a certificate. -/
def isCertificate (bytes : List UInt8) : Bool :=
  (certificate.after? bytes).isSome

/-- Whether bytes start with a certificate, with nothing but its trust behind it. -/
def isTrusted (bytes : List UInt8) : Bool :=
  (certificate.after? bytes).any fun rest => rest.isEmpty || (trust.after? rest).isSome

/-- Whether bytes start with a list of revoked certificates. -/
def isRevocationList (bytes : List UInt8) : Bool :=
  (revocationList.after? bytes).isSome

end FederatedLogin.Certificate.Form

/-
Identity certificates: a certificate and its private key as a caller gives them, with the consumer's
uuid from the certificate's subject.
-/
import EntitlementClient.Identity.Certificate
import EntitlementClient.Schema.Inspect
import EntitlementClient.Trace

namespace EntitlementClient

open EntitlementClient.Text

/-- The certificate of a consumer and the private key that belongs to it. -/
structure IdentityCertificate where
  certificatePem : String
  keyPem : String
  subject : String
  uuid : String
  uuid_ne_empty : uuid ≠ ""

namespace IdentityCertificate

/-- Reads the first block of a text. -/
def readBlock (pem : String) : Except ClientError Pem.Block :=
  (Pem.first pem.toList).mapError fun fault => .invalidCertificate (.pem fault)

/-- The subject of the certificate in the first block of a text. -/
def readSubject (pem : String) : Except ClientError Name := do
  let block ← readBlock pem
  match Certificate.subject? block.content with
  | some subject => .ok subject
  | none => .error (.invalidCertificate .notACertificate)

/-- What the label of a private key's block ends in. -/
def keyLabel : List Char := "PRIVATE KEY".toList

/-- Checks that the first block of a text is a private key, as far as its label tells. -/
def checkKey (pem : String) : Except ClientError Unit := do
  let block ← readBlock pem
  if keyLabel.isSuffixOf block.label.toList then .ok ()
  else .error (.invalidCertificate (.notAPrivateKey block.label))

/-- The identity in a certificate and a private key. The certificate is read first and completely;
its user id is the consumer's uuid and must not be empty. -/
def read (certificatePem keyPem : String) : Except ClientError IdentityCertificate := do
  let name ← readSubject certificatePem
  match name.userId? with
  | none => .error (.missingUid name.shown)
  | some uuid =>
    if h : uuid = "" then .error (.missingUid name.shown)
    else do
      checkKey keyPem
      return ⟨certificatePem, keyPem, name.shown, uuid, h⟩

/-- Reads an identity and writes its uuid to the log. -/
def load (certificatePem keyPem : String) : Traced IdentityCertificate := do
  let identity ← Traced.ofExcept (read certificatePem keyPem)
  Traced.log (.identityLoaded identity.uuid)
  return identity

/-- The certificate and the key in one text. The key starts on a line of its own. -/
def pem (identity : IdentityCertificate) : List Char :=
  let certificate := identity.certificatePem.toList
  certificate ++ (if certificate.getLast? = some '\n' then [] else ['\n']) ++
    identity.keyPem.toList

/-- The text for people to read, which shows nothing of the key. -/
def inspect (identity : IdentityCertificate) : String :=
  "IdentityCertificate \x7b " ++
    commaSeparated
      ["subject: " ++ Quoted.quote identity.subject, "uuid: " ++ Quoted.quote identity.uuid,
        "key: " ++ mask, ".. \x7d"]

end IdentityCertificate

end EntitlementClient

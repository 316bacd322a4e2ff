/-
What is presented to the server when a connection is secured: the certificates of an identity and
one private key.
-/
import EntitlementClient.Identity.Basic
import EntitlementClient.Identity.PrivateKey

namespace EntitlementClient

/-- The certificates that are presented, the leaf first, and the private key. -/
structure Presentation where
  chain : List (List UInt8)
  key : List UInt8
deriving DecidableEq

namespace Presentation

/-- The label of certificates. -/
def certificateLabel : String := "CERTIFICATE"

/-- The labels of private keys. -/
def keyLabels : List String := ["PRIVATE KEY", "RSA PRIVATE KEY", "EC PRIVATE KEY"]

/-- The label of lists of revoked certificates. -/
def revocationLabel : String := "X509 CRL"

/-- The certificates and the last private key among some blocks. A list of revoked certificates may
not be among them; blocks with other labels do not matter. -/
def ofBlocks? (blocks : List Pem.Block) : Option Presentation :=
  let chain := (blocks.filter fun b => b.label == certificateLabel).map (·.content)
  let keys := (blocks.filter fun b => keyLabels.contains b.label).map (·.content)
  if blocks.any fun b => b.label == revocationLabel then none
  else
    match chain, keys.getLast? with
    | _ :: _, some key => some ⟨chain, key⟩
    | _, _ => none

/-- What is presented for an identity. There must be a certificate and a private key, and the key
must be one that can be loaded. -/
def ofIdentity (identity : IdentityCertificate) : Except ClientError Presentation :=
  match (Pem.blocks? identity.pem).bind ofBlocks? with
  | none => .error (.invalidCertificate .notPresentable)
  | some presentation =>
    if PrivateKey.isLoadable presentation.key then .ok presentation
    else .error (.clientSetup "the private key cannot be loaded")

end Presentation

end EntitlementClient

/-
Private keys: the forms in which a key can be loaded. These are RSA keys and keys on two curves,
bare or wrapped with the identifier of their algorithm, and wrapped Ed25519 keys.
-/
import EntitlementClient.Identity.PrivateKey.Curve
import EntitlementClient.Identity.PrivateKey.Edwards
import EntitlementClient.Identity.PrivateKey.Rsa

namespace EntitlementClient.PrivateKey

/-- Whether a wrapped key is of an algorithm that is supported. -/
def Wrapped.isLoadable (wrapped : Wrapped) : Bool :=
  wrapped.isRsaKey || Curve.supported.any wrapped.isCurveKey || wrapped.isEdwardsKey

/-- Whether a key can be loaded from some bytes. -/
def isLoadable (bytes : List UInt8) : Bool :=
  isRsaKey bytes || (Wrapped.ofBytes? bytes).any Wrapped.isLoadable ||
    Curve.supported.any (isCurveKey · bytes)

end EntitlementClient.PrivateKey

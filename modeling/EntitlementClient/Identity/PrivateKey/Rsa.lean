/-
RSA keys: a modulus of 2048 to 4096 bits with its two factors and the exponents that belong to them.
-/
import EntitlementClient.Identity.PrivateKey.Encoding

namespace EntitlementClient.PrivateKey

/-- How many bits a number takes. -/
def bitLength (n : Nat) : Nat :=
  if n = 0 then 0 else n.log2 + 1

/-- An RSA key: the modulus, both exponents, the factors, the private exponent for each factor, and
the inverse of the second factor modulo the first. -/
structure RsaKey where
  modulus : Nat
  publicExponent : Nat
  privateExponent : Nat
  first : Nat
  second : Nat
  firstExponent : Nat
  secondExponent : Nat
  inverse : Nat

namespace RsaKey

/-- Whether a number is odd. -/
def isOdd (n : Nat) : Bool := n % 2 == 1

/-- Whether a modulus has a size that is supported, counted in whole bytes at the low end. -/
def isModulus (n : Nat) : Bool :=
  isOdd n && decide (256 ≤ (bitLength n + 7) / 8 ∧ bitLength n ≤ 4096)

/-- Whether a public exponent is large enough and takes at most 33 bits. -/
def isPublicExponent (e : Nat) : Bool :=
  isOdd e && decide (65537 ≤ e ∧ bitLength e ≤ 33)

/-- Whether a factor takes half as many bits as the modulus, and a multiple of 512. -/
def isFactor (modulus factor : Nat) : Bool :=
  isOdd factor && bitLength factor == (bitLength modulus + 1) / 2 && bitLength factor % 512 == 0

/-- Whether a number can be the private exponent for a factor. -/
def isExponentOf (factor exponent : Nat) : Bool :=
  isOdd exponent && decide (exponent < factor)

/-- Whether the numbers of a key fit each other as far as that is checked. -/
def isSound (key : RsaKey) : Bool :=
  isModulus key.modulus && isPublicExponent key.publicExponent &&
    isFactor key.modulus key.first && isFactor key.modulus key.second &&
    key.first * key.second % key.modulus == 0 &&
    isExponentOf key.modulus key.privateExponent &&
    decide ((bitLength key.modulus + 1) / 2 < bitLength key.privateExponent) &&
    decide (key.inverse < key.first) && key.inverse * key.second % key.first == 1 &&
    isExponentOf key.first key.firstExponent && isExponentOf key.second key.secondExponent

/-- Reads a bare key: version zero and eight integers. -/
def ofBytes? (bytes : List UInt8) : Option RsaKey := do
  let content ← only? sequenceTag bytes
  match ← readNaturals 9 content with
  | ([0, n, e, d, p, q, dp, dq, inverse], []) => return ⟨n, e, d, p, q, dp, dq, inverse⟩
  | _ => none

/-- The algorithm that wrapped RSA keys name: its object identifier and no parameters. -/
def algorithm : List UInt8 :=
  [0x06, 0x09, 0x2A, 0x86, 0x48, 0x86, 0xF7, 0x0D, 0x01, 0x01, 0x01, 0x05, 0x00]

end RsaKey

/-- Whether some bytes are a bare RSA key. -/
def isRsaKey (bytes : List UInt8) : Bool :=
  (RsaKey.ofBytes? bytes).any RsaKey.isSound

/-- Whether a wrapped key is an RSA key. -/
def Wrapped.isRsaKey (wrapped : Wrapped) : Bool :=
  wrapped.publicKey.isNone && wrapped.algorithm == RsaKey.algorithm &&
    PrivateKey.isRsaKey wrapped.key

end EntitlementClient.PrivateKey

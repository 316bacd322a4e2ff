/-
Ed25519 keys: a seed of 32 bytes, from which the public key follows.
-/
import EntitlementClient.Arithmetic.Multiple
import EntitlementClient.Arithmetic.Residue
import EntitlementClient.Hash.Sha512
import EntitlementClient.Identity.PrivateKey.Encoding

namespace EntitlementClient.PrivateKey

namespace Edwards

/-- The prime of the field. -/
def prime : Nat := 0x7FFFFFFFFFFFFFFFFFFFFFFFFFFFFFFFFFFFFFFFFFFFFFFFFFFFFFFFFFFFFFED

/-- The coefficient `d` of the curve `y² - x² = 1 + d x² y²`. -/
def coefficient : Nat :=
  Residue.div prime (prime - 121665) 121666

/-- The base point. -/
def base : Nat × Nat :=
  (0x216936D3CD6E53FEC0A4E231FDD6DC5C692CC7609525A7B2C9562D608F25D51A, Residue.div prime 4 5)

/-- The sum of two points. -/
def add (a b : Nat × Nat) : Nat × Nat :=
  let (x, y) := a
  let (x', y') := b
  let cross := coefficient * (x * x' % prime) * (y * y' % prime) % prime
  (Residue.div prime (x * y' + x' * y) (1 + cross),
    Residue.div prime (y * y' + x * x') (Residue.sub prime 1 cross))

/-- The number whose bytes these are, the low byte first. -/
def littleEndian (bytes : List UInt8) : Nat :=
  bytes.foldr (fun b n => n * 256 + b.toNat) 0

/-- The multiple of the base point that belongs to a seed: half of the hash, with the three low bits
clear and the highest of 255 bits set. -/
def scalar (seed : List UInt8) : Nat :=
  let n := littleEndian ((Sha512.hash seed).take 32)
  let top := Nat.pow 2 254
  top + n % top / 8 * 8

/-- The public key of a seed: the second coordinate of a point, and the lowest bit of the first at
the top. -/
def publicKey (seed : List UInt8) : List UInt8 :=
  let (x, y) := multiple add (0, 1) (scalar seed) base
  let n := y + x % 2 * Nat.pow 2 255
  (List.range 32).map fun i => UInt8.ofNat (n >>> (8 * i))

/-- The algorithm that wrapped keys name. -/
def algorithm : List UInt8 := [0x06, 0x03, 0x2B, 0x65, 0x70]

end Edwards

/-- Whether a wrapped key is an Ed25519 key. A public key that is given must belong to it. -/
def Wrapped.isEdwardsKey (wrapped : Wrapped) : Bool :=
  wrapped.algorithm == Edwards.algorithm &&
    match only? bytesTag wrapped.key with
    | none => false
    | some seed =>
      seed.length == 32 && wrapped.publicKey.all fun key => key == Edwards.publicKey seed

end EntitlementClient.PrivateKey

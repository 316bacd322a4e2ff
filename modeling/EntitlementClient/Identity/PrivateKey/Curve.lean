/-
Keys on the curves `y² = x³ - 3x + b` over a prime field: a number, and the point that is this
multiple of the curve's base point.
-/
import EntitlementClient.Arithmetic.Multiple
import EntitlementClient.Arithmetic.Residue
import EntitlementClient.Identity.PrivateKey.Encoding

namespace EntitlementClient.PrivateKey

open EntitlementClient.Der

/-- A point of a curve: two coordinates, or the neutral point that has none. -/
inductive Point
  | neutral
  | at (x y : Nat)
deriving DecidableEq

/-- A curve: its object identifier, the bytes that a coordinate takes, the prime of its field, the
order of its base point, and that point. -/
structure Curve where
  id : List UInt8
  size : Nat
  prime : Nat
  order : Nat
  base : Point

namespace Curve

/-- The sum of two points: the third point on the line through them, turned over. -/
def add (curve : Curve) (a b : Point) : Point :=
  match a, b with
  | .neutral, b => b
  | a, .neutral => a
  | .at x y, .at x' y' =>
    let p := curve.prime
    if x = x' ∧ (y + y') % p = 0 then .neutral
    else
      let slope :=
        if x = x' then Residue.div p (Residue.sub p (3 * x * x) 3) (2 * y)
        else Residue.div p (Residue.sub p y' y) (Residue.sub p x' x)
      let third := Residue.sub p (slope * slope) (x + x')
      .at third (Residue.sub p (slope * Residue.sub p x third) y)

/-- A multiple of the base point. -/
def point (curve : Curve) (n : Nat) : Point :=
  multiple curve.add .neutral n curve.base

/-- The bytes of a point: a mark and the coordinates in full. -/
def pointBytes (curve : Curve) : Point → List UInt8
  | .neutral => [0x00]
  | .at x y =>
    let coordinate (n : Nat) :=
      (List.range curve.size).reverse.map fun i => UInt8.ofNat (n >>> (8 * i))
    0x04 :: coordinate x ++ coordinate y

/-- The curve of 256 bits. -/
def p256 : Curve where
  id := [0x2A, 0x86, 0x48, 0xCE, 0x3D, 0x03, 0x01, 0x07]
  size := 32
  prime := 0xFFFFFFFF00000001000000000000000000000000FFFFFFFFFFFFFFFFFFFFFFFF
  order := 0xFFFFFFFF00000000FFFFFFFFFFFFFFFFBCE6FAADA7179E84F3B9CAC2FC632551
  base := .at
    0x6B17D1F2E12C4247F8BCE6E563A440F277037D812DEB33A0F4A13945D898C296
    0x4FE342E2FE1A7F9B8EE7EB4A7C0F9E162BCE33576B315ECECBB6406837BF51F5

/-- The order of the base point of the curve of 384 bits. -/
def p384Order : Nat :=
  0xFFFFFFFFFFFFFFFFFFFFFFFFFFFFFFFFFFFFFFFFFFFFFFFFC7634D81F4372DDF581A0DB248B0A77AECEC196ACCC52973

/-- The base point of the curve of 384 bits. -/
def p384Base : Point := .at
  0xAA87CA22BE8B05378EB1C71EF320AD746E1D3B628BA79B9859F741E082542A385502F25DBF55296C3A545E3872760AB7
  0x3617DE4A96262C6F5D9E98BF9292DC29F8F41DBD289A147CE9DA3113B5F0B8C00A60B1CE1D7E819D7A431D7C90EA0E5F

/-- The curve of 384 bits. -/
def p384 : Curve where
  id := [0x2B, 0x81, 0x04, 0x00, 0x22]
  size := 48
  prime := Nat.pow 2 384 - Nat.pow 2 128 - Nat.pow 2 96 + Nat.pow 2 32 - 1
  order := p384Order
  base := p384Base

/-- The curves on which keys can be loaded. -/
def supported : List Curve := [p256, p384]

/-- The object identifier of a curve as an element. -/
def idElement (curve : Curve) : List UInt8 :=
  0x06 :: UInt8.ofNat curve.id.length :: curve.id

/-- The algorithm that wrapped keys on a curve name: an object identifier for keys on curves, and
the curve's. -/
def algorithm (curve : Curve) : List UInt8 :=
  [0x06, 0x07, 0x2A, 0x86, 0x48, 0xCE, 0x3D, 0x02, 0x01] ++ curve.idElement

/-- Passes the name of the curve, which may be absent. -/
def passName (curve : Curve) (bytes : List UInt8) : Option (List UInt8) :=
  if bytes.head? = some 0xA0 then do
    let (name, rest) ← readTagged 0xA0 bytes
    guard (name == curve.idElement)
    return rest
  else some bytes

/-- Reads a bare key on a curve: version one, the number, perhaps the name of the curve, and the
bytes of the point. -/
def readKey (curve : Curve) (bytes : List UInt8) : Option (List UInt8 × List UInt8) := do
  let content ← only? sequenceTag bytes
  let (version, s) ← readNatural content
  guard (version == 1)
  let (number, s) ← readTagged bytesTag s
  let s ← curve.passName s
  let outer ← only? 0xA1 s
  let bits ← only? bitsTag outer
  let point ← wholeBytes? bits
  return (number, point)

end Curve

/-- Whether some bytes are a bare key on a curve, with the point that belongs to its number. -/
def isCurveKey (curve : Curve) (bytes : List UInt8) : Bool :=
  match curve.readKey bytes with
  | none => false
  | some (number, point) =>
    let n := bigEndian number
    number.length == curve.size && decide (0 < n ∧ n < curve.order) &&
      point == curve.pointBytes (curve.point n)

/-- Whether a wrapped key is a key on a curve. -/
def Wrapped.isCurveKey (wrapped : Wrapped) (curve : Curve) : Bool :=
  wrapped.publicKey.isNone && wrapped.algorithm == curve.algorithm &&
    PrivateKey.isCurveKey curve wrapped.key

end EntitlementClient.PrivateKey

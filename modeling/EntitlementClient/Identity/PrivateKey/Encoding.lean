/-
How private keys are written: elements with one byte for the tag and the shortest length, of at most
two bytes; integers that are not negative, in the shortest form; and a wrapping that names the
algorithm of a key.
-/
import EntitlementClient.Identity.Der

namespace EntitlementClient.PrivateKey

open EntitlementClient.Der

/-- Splits off a given number of bytes. -/
def split? (count : Nat) (bytes : List UInt8) : Option (List UInt8 × List UInt8) :=
  if bytes.length < count then none else some (bytes.take count, bytes.drop count)

/-- Reads a length and as many bytes. -/
def readSized : List UInt8 → Option (List UInt8 × List UInt8)
  | [] => none
  | n :: rest =>
    if n < 0x80 then split? n.toNat rest
    else
      match n, rest with
      | 0x81, a :: rest => if a < 0x80 then none else split? a.toNat rest
      | 0x82, a :: b :: rest => if a = 0 then none else split? (a.toNat * 256 + b.toNat) rest
      | _, _ => none

/-- Reads the content of an element that starts with a given byte. -/
def readTagged (first : UInt8) : List UInt8 → Option (List UInt8 × List UInt8)
  | [] => none
  | b :: rest => if b = first then readSized rest else none

/-- The content of the only element, which starts with a given byte. -/
def only? (first : UInt8) (bytes : List UInt8) : Option (List UInt8) := do
  let (content, rest) ← readTagged first bytes
  guard rest.isEmpty
  return content

/-- The first byte of an integer. -/
def integerTag : UInt8 := 0x02

/-- The first byte of a sequence of bits. -/
def bitsTag : UInt8 := 0x03

/-- The first byte of a sequence of bytes. -/
def bytesTag : UInt8 := 0x04

/-- The first byte of a sequence of elements. -/
def sequenceTag : UInt8 := 0x30

/-- Whether some bytes are an integer that is not negative, with no byte too many. -/
def isNatural : List UInt8 → Bool
  | [] => false
  | [a] => decide (a < 0x80)
  | a :: b :: _ => decide (a < 0x80) && (a != 0 || decide (0x80 ≤ b))

/-- Reads an integer that is not negative. -/
def readNatural (bytes : List UInt8) : Option (Nat × List UInt8) := do
  let (content, rest) ← readTagged integerTag bytes
  guard (isNatural content)
  return (bigEndian content, rest)

/-- Reads as many integers as asked for. -/
def readNaturals : Nat → List UInt8 → Option (List Nat × List UInt8)
  | 0, bytes => some ([], bytes)
  | count + 1, bytes => do
    let (n, rest) ← readNatural bytes
    let (others, rest) ← readNaturals count rest
    return (n :: others, rest)

/-- The bytes of a sequence of bits that has no unused bits. -/
def wholeBytes? : List UInt8 → Option (List UInt8)
  | 0 :: bytes => some bytes
  | _ => none

/-- Passes an element that starts with a given byte, if one stands there. -/
def passOptional (first : UInt8) (bytes : List UInt8) : Option (List UInt8) :=
  if bytes.head? = some first then (readTagged first bytes).map Prod.snd else some bytes

/-- A key with the identifier of its algorithm, and the public key if that is given. -/
structure Wrapped where
  algorithm : List UInt8
  key : List UInt8
  publicKey : Option (List UInt8)

/-- The public key at the end of a wrapped key, in either of two forms. -/
def publicKey? (bytes : List UInt8) : Option (List UInt8) :=
  if bytes.head? = some 0xA1 then do
    let content ← only? 0xA1 bytes
    let bits ← only? bitsTag content
    wholeBytes? bits
  else do
    let bits ← only? 0x81 bytes
    wholeBytes? bits

/-- Reads a wrapped key: a version, an algorithm, the key, and perhaps attributes. The public key
follows in the second version, and only there. -/
def Wrapped.ofBytes? (bytes : List UInt8) : Option Wrapped := do
  let content ← only? sequenceTag bytes
  let (version, s) ← readNatural content
  let (algorithm, s) ← readTagged sequenceTag s
  let (key, s) ← readTagged bytesTag s
  let s ← passOptional 0xA0 s
  match version with
  | 0 =>
    guard s.isEmpty
    return ⟨algorithm, key, none⟩
  | 1 =>
    let publicKey ← publicKey? s
    return ⟨algorithm, key, some publicKey⟩
  | _ => none

end EntitlementClient.PrivateKey

/-
Percent-encoding of path segments and query values: the bytes of unreserved characters stand for
themselves, every other byte is written `%XX`.
-/
import EntitlementClient.Text.Hex
import EntitlementClient.Text.Utf8

namespace EntitlementClient.Text.Percent

/-- Whether a byte stands for itself: the letters, the digits and `-`, `_`, `.`, `~`. -/
def isUnreserved (b : UInt8) : Bool :=
  (0x30 ≤ b && b ≤ 0x39) || (0x41 ≤ b && b ≤ 0x5A) || (0x61 ≤ b && b ≤ 0x7A) ||
    b == 0x2D || b == 0x5F || b == 0x2E || b == 0x7E

/-- A byte as `%XX`. -/
def escape (b : UInt8) : List Char :=
  ['%', Hex.upper (b.toNat / 16), Hex.upper (b.toNat % 16)]

/-- The written form of one byte. -/
def encodeByte (b : UInt8) : List Char :=
  if isUnreserved b then [Char.ofNat b.toNat] else escape b

/-- The written form of a text. -/
def encode (s : String) : List Char :=
  (Utf8.encode s.toList).flatMap encodeByte

end EntitlementClient.Text.Percent

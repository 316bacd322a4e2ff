/-
Text in 16-bit units, the high byte first, with surrogate pairs.
-/

namespace EntitlementClient.Text.Utf16

/-- The 16-bit units of a byte sequence. A last byte without a partner is a unit of its own. -/
def units : List UInt8 → List Nat
  | [] => []
  | [a] => [a.toNat]
  | a :: b :: rest => (a.toNat * 256 + b.toNat) :: units rest

/-- The text that a sequence of units stands for; `none` if a surrogate stands alone. -/
def decodeUnits? : List Nat → Option (List Char)
  | [] => some []
  | u :: rest =>
    if u < 0xD800 ∨ 0xDFFF < u then (decodeUnits? rest).map (Char.ofNat u :: ·)
    else match rest with
      | v :: rest =>
        if u < 0xDC00 ∧ 0xDC00 ≤ v ∧ v ≤ 0xDFFF then
          (decodeUnits? rest).map (Char.ofNat (0x10000 + (u - 0xD800) * 1024 + (v - 0xDC00)) :: ·)
        else none
      | [] => none

/-- The text of a byte sequence. -/
def decode? (bytes : List UInt8) : Option (List Char) :=
  decodeUnits? (units bytes)

end EntitlementClient.Text.Utf16

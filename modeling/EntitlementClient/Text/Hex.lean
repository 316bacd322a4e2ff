/-
Hexadecimal digits: writing them in either letter case and reading them in both.
-/

namespace EntitlementClient.Text.Hex

/-- The digit for a value below sixteen, with capital letters. -/
def upper (n : Nat) : Char :=
  if n < 10 then Char.ofNat (0x30 + n) else Char.ofNat (0x37 + n)

/-- The digit for a value below sixteen, with small letters. -/
def lower (n : Nat) : Char :=
  if n < 10 then Char.ofNat (0x30 + n) else Char.ofNat (0x57 + n)

/-- The value of a digit in either letter case. -/
def value? (c : Char) : Option Nat :=
  let n := c.toNat
  if 0x30 ≤ n ∧ n ≤ 0x39 then some (n - 0x30)
  else if 0x41 ≤ n ∧ n ≤ 0x46 then some (n - 0x37)
  else if 0x61 ≤ n ∧ n ≤ 0x66 then some (n - 0x57)
  else none

theorem value?_upper : ∀ n < 16, value? (upper n) = some n := by decide

theorem value?_lower : ∀ n < 16, value? (lower n) = some n := by decide

/-- What has no value is no digit. -/
theorem lower_ne {c : Char} (h : value? c = none) {n : Nat} (hn : n < 16) : lower n ≠ c := by
  rintro rfl
  rw [value?_lower n hn] at h
  cases h

/-- Two capital digits for every byte. -/
def encodeUpper (bytes : List UInt8) : List Char :=
  bytes.flatMap fun b => [upper (b.toNat / 16), upper (b.toNat % 16)]

/-- Two small digits for every byte, and blanks between the bytes. -/
def spaced (bytes : List UInt8) : String :=
  String.intercalate " "
    (bytes.map fun b => String.ofList [lower (b.toNat / 16), lower (b.toNat % 16)])

/-- The bytes that pairs of digits stand for. -/
def decode? : List Char → Option (List UInt8)
  | [] => some []
  | a :: b :: rest => do
    let high ← value? a
    let low ← value? b
    let bytes ← decode? rest
    return UInt8.ofNat (high * 16 + low) :: bytes
  | [_] => none

end EntitlementClient.Text.Hex

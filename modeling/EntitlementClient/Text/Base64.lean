/-
Base64 with the standard alphabet and padding: encoding, and decoding that accepts exactly what
encoding writes (no blanks, full padding, unused bits zero).
-/
import EntitlementClient.Text.Blank

namespace EntitlementClient.Text.Base64

/-- The character for six bits. -/
def digit (n : Nat) : Char :=
  if n < 26 then Char.ofNat (0x41 + n)
  else if n < 52 then Char.ofNat (0x61 + (n - 26))
  else if n < 62 then Char.ofNat (0x30 + (n - 52))
  else if n = 62 then '+'
  else '/'

/-- The six bits that a character stands for. -/
def value? (c : Char) : Option Nat :=
  let n := c.toNat
  if 0x41 ≤ n ∧ n ≤ 0x5A then some (n - 0x41)
  else if 0x61 ≤ n ∧ n ≤ 0x7A then some (n - 0x61 + 26)
  else if 0x30 ≤ n ∧ n ≤ 0x39 then some (n - 0x30 + 52)
  else if c = '+' then some 62
  else if c = '/' then some 63
  else none

/-- Four characters for every three bytes; `=` fills the last group. -/
def encode : List UInt8 → List Char
  | [] => []
  | [a] => [digit (a.toNat / 4), digit (a.toNat % 4 * 16), '=', '=']
  | [a, b] =>
    [digit (a.toNat / 4), digit (a.toNat % 4 * 16 + b.toNat / 16), digit (b.toNat % 16 * 4), '=']
  | a :: b :: c :: rest =>
    digit (a.toNat / 4) :: digit (a.toNat % 4 * 16 + b.toNat / 16) ::
      digit (b.toNat % 16 * 4 + c.toNat / 64) :: digit (c.toNat % 64) :: encode rest

/-- The bytes of a text; `none` if the text is no written form. -/
def decode? : List Char → Option (List UInt8)
  | [] => some []
  | [p, q, '=', '='] => do
    let p ← value? p
    let q ← value? q
    if q % 16 = 0 then return [UInt8.ofNat (p * 4 + q / 16)] else none
  | [p, q, r, '='] => do
    let p ← value? p
    let q ← value? q
    let r ← value? r
    if r % 4 = 0 then
      return [UInt8.ofNat (p * 4 + q / 16), UInt8.ofNat (q % 16 * 16 + r / 4)]
    else none
  | p :: q :: r :: t :: rest => do
    let p ← value? p
    let q ← value? q
    let r ← value? r
    let t ← value? t
    let bytes ← decode? rest
    return UInt8.ofNat (p * 4 + q / 16) :: UInt8.ofNat (q % 16 * 16 + r / 4) ::
      UInt8.ofNat (r % 4 * 64 + t) :: bytes
  | _ => none

/-- The bytes of a text whose padding may be incomplete or missing. -/
def decodeUnpadded? (s : List Char) : Option (List UInt8) :=
  let body := dropEndWhile (· == '=') s
  let padding := s.length - body.length
  -- a single digit beyond the last group holds no byte, with or without padding
  if padding = 0 ∨ (2 ≤ body.length % 4 ∧ body.length % 4 + padding ≤ 4) then
    decode? (body ++ List.replicate ((4 - body.length % 4) % 4) '=')
  else none

end EntitlementClient.Text.Base64

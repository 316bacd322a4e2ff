/-
Object identifiers: numbers in a tree of registrations, and the bytes that hold them.
-/
import EntitlementClient.Text.Hex

namespace EntitlementClient.ObjectId

open EntitlementClient.Text

/-! ## Reading -/

/-- The number whose digits to the base 128 these bytes hold in their seven low bits. -/
def number (digits : List UInt8) : Nat :=
  digits.foldl (fun n b => n * 128 + b.toNat % 128) 0

/-- The parts of a byte sequence up to each byte with a clear top bit, and the bytes after the last
of them. -/
def parts : List UInt8 → List (List UInt8) × List UInt8
  | [] => ([], [])
  | b :: rest =>
    if b < 0x80 then ([b] :: (parts rest).1, (parts rest).2)
    else
      match parts rest with
      | ([], tail) => ([], b :: tail)
      | (part :: others, tail) => ((b :: part) :: others, tail)

/-- How many bytes a number of 64 bits can take at most, seven bits in each. -/
def mostDigits : Nat := 9

/-- The numbers of an object identifier; the first byte holds two of them. A number that breaks off
at the end counts as far as it goes, kept to 64 bits. `none` if another number takes too many
bytes. -/
def arcs? : List UInt8 → Option (List Nat)
  | [] => some []
  | [0] => some [0]
  | b :: rest =>
    let (whole, tail) := parts rest
    if whole.any fun part => decide (mostDigits < part.length) then none
    else
      let last := if tail.isEmpty then [] else [number tail % 0x10000000000000000]
      some (b.toNat / 40 :: b.toNat % 40 :: (whole.map number ++ last))

/-- The text of an object identifier: its numbers with dots between them, or its bytes if a number
is too long. -/
def text (id : List UInt8) : String :=
  match arcs? id with
  | some arcs => String.intercalate "." (arcs.map toString)
  | none => Hex.spaced id

/-! ## Writing -/

/-- The digits of a number to the base 128, all but the last with the top bit set; `more` says
whether another digit follows. -/
def digits (n : Nat) (more : Bool) : List UInt8 :=
  let last := UInt8.ofNat (n % 128 + if more then 128 else 0)
  if n < 128 then [last] else digits (n / 128) true ++ [last]
termination_by n

/-- The bytes of an object identifier with at least two numbers. -/
def encode : List Nat → List UInt8
  | a :: b :: rest => digits (a * 40 + b) false ++ rest.flatMap (digits · false)
  | _ => []

/-- The numbers of the attribute type that holds a user id. -/
def userId : List Nat := [0, 9, 2342, 19200300, 100, 1, 1]

end EntitlementClient.ObjectId

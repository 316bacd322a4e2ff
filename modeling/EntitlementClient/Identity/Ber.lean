/-
BER: elements as in DER, but the length of an element may be left open. The content then goes up to
an end mark, and what stands in it is looked at to find the mark.
-/
import EntitlementClient.Identity.Der

namespace EntitlementClient.Ber

open EntitlementClient.Der

/-- How many elements of open length may stand one inside another. -/
def mostOpen : Nat := 7

/-- Passes what is left of the content of `depth` elements of open length, one inside another, and
their end marks. An end mark is an empty element with tag zero. -/
def passOpen (depth : Nat) (bytes : List UInt8) : Option (List UInt8) :=
  match h : readHeader bytes with
  | none => none
  | some (header, rest) =>
    have := readHeader_length_lt h
    match header.length with
    | none =>
      if header.constructed ∧ depth < mostOpen then passOpen (depth + 1) rest else none
    | some length =>
      if length = 0 ∧ header.tag = 0 then
        if depth ≤ 1 then some rest else passOpen (depth - 1) rest
      else if rest.length < length then none
      else passOpen depth (rest.drop length)
termination_by bytes.length
decreasing_by all_goals grind

/-- Passes an element with a given tag, whatever its class. -/
def pass? (tag : Nat) (bytes : List UInt8) : Option (List UInt8) := do
  let (header, rest) ← readHeader bytes
  guard (header.tag == tag)
  match header.length with
  | none => if header.constructed then passOpen 1 rest else none
  | some length => if rest.length < length then none else some (rest.drop length)

end EntitlementClient.Ber

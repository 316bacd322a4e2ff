/-
The compact text of a JSON value: no blanks, and escapes only where the format demands them.
-/
import EntitlementClient.Decimal.Shortest
import EntitlementClient.Json.Basic
import EntitlementClient.Text.Hex

namespace EntitlementClient

open EntitlementClient.Decimal EntitlementClient.Text

namespace Json

/-! ## Strings -/

/-- The written form of one character of a string. -/
def escapeChar (c : Char) : List Char :=
  if c = '"' then ['\\', '"']
  else if c = '\\' then ['\\', '\\']
  else if c = '\x08' then ['\\', 'b']
  else if c = '\x0c' then ['\\', 'f']
  else if c = '\n' then ['\\', 'n']
  else if c = '\r' then ['\\', 'r']
  else if c = '\t' then ['\\', 't']
  else if c.toNat < 0x20 then
    ['\\', 'u', '0', '0', Hex.lower (c.toNat / 16), Hex.lower (c.toNat % 16)]
  else [c]

/-- The written form of a string. -/
def writeString (s : String) : List Char :=
  '"' :: s.toList.flatMap escapeChar ++ ['"']

/-! ## Numbers -/

/-- The digits of an integer, with a minus sign if it is negative. -/
def writeInt (n : Int) : List Char :=
  if n < 0 then '-' :: Nat.toDigits 10 n.natAbs else Nat.toDigits 10 n.natAbs

end Json

/-- The written form of a number. -/
def JsonNumber.write : JsonNumber → List Char
  | .integer n _ _ => Json.writeInt n
  | .double negative x => (if negative then ['-'] else []) ++ x.shortest.text Layout.number

namespace Json

/-! ## Values -/

mutual

/-- The written form of a value. -/
def write : Json → List Char
  | .null => ['n', 'u', 'l', 'l']
  | .bool true => ['t', 'r', 'u', 'e']
  | .bool false => ['f', 'a', 'l', 's', 'e']
  | .number n => n.write
  | .text s => writeString s
  | .array items => '[' :: writeItems items ++ [']']
  | .object members => '{' :: writeMembers members ++ ['}']
termination_by structural json => json

/-- The items of an array with commas between them. -/
def writeItems : List Json → List Char
  | [] => []
  | [json] => json.write
  | json :: next :: rest => json.write ++ ',' :: writeItems (next :: rest)
termination_by structural items => items

/-- The members of an object with commas between them. -/
def writeMembers : List (String × Json) → List Char
  | [] => []
  | [(name, json)] => writeString name ++ ':' :: json.write
  | (name, json) :: next :: rest =>
    writeString name ++ ':' :: json.write ++ ',' :: writeMembers (next :: rest)
termination_by structural members => members

end

/-- The compact text of a value. -/
def render (json : Json) : String :=
  String.ofList json.write

end Json

end EntitlementClient

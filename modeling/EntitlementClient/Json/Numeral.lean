/-
Numbers in a JSON text: the parts of a numeral, and the number that a numeral stands for. An integer
of 64 bits is kept exactly; any other numeral becomes a binary number by one conversion of its
leading digits and one scaling by a power of ten.
-/
import EntitlementClient.Json.Fault

namespace EntitlementClient.Json

open EntitlementClient.Decimal

/-- The parts of a numeral. An exponent is its sign, true for minus, and its digits. -/
structure Numeral where
  negative : Bool
  whole : List Char
  fraction : Option (List Char)
  exponent : Option (Bool × List Char)

/-! ## Reading the parts -/

/-- Reads the digits before the point: a zero alone, or digits that do not start with zero. The
cause `atEnd` tells of a text that ends too early. -/
def readWhole (atEnd : Cause) : List Char → Except Fault (List Char × List Char)
  | [] => .error (.before atEnd [])
  | c :: s =>
    if c = '0' then
      if (s.takeWhile Char.isDigit).isEmpty then .ok ([c], s)
      else .error (.within .invalidNumber s)
    else if c.isDigit then .ok (c :: s.takeWhile Char.isDigit, s.dropWhile Char.isDigit)
    else .error (.within .invalidNumber (c :: s))

/-- Reads one digit or more. -/
def readDigits (atEnd : Cause) (s : List Char) : Except Fault (List Char × List Char) :=
  match s with
  | [] => .error (.before atEnd [])
  | c :: _ =>
    if c.isDigit then .ok (s.takeWhile Char.isDigit, s.dropWhile Char.isDigit)
    else .error (.within .invalidNumber s)

/-- Reads a point and the digits after it, if there is a point. -/
def readFraction (atEnd : Cause) (s : List Char) :
    Except Fault (Option (List Char) × List Char) :=
  match s with
  | '.' :: s => do
    let (digits, s) ← readDigits atEnd s
    return (some digits, s)
  | s => .ok (none, s)

/-- Takes a sign off the start of a text; true stands for minus. -/
def takeSign : List Char → Bool × List Char
  | '-' :: s => (true, s)
  | '+' :: s => (false, s)
  | s => (false, s)

/-- Reads the power of ten after an `e` in either letter case, if there is one. -/
def readExponent (atEnd : Cause) (s : List Char) :
    Except Fault (Option (Bool × List Char) × List Char) :=
  match s with
  | [] => .ok (none, [])
  | c :: s =>
    if c = 'e' ∨ c = 'E' then do
      let (negative, s) := takeSign s
      let (digits, s) ← readDigits atEnd s
      return (some (negative, digits), s)
    else .ok (none, c :: s)

/-- Takes a minus sign off the start of a text. -/
def takeMinus : List Char → Bool × List Char
  | '-' :: s => (true, s)
  | s => (false, s)

/-- Reads a numeral. -/
def readNumeral (atEnd : Cause) (s : List Char) : Except Fault (Numeral × List Char) := do
  let (negative, s) := takeMinus s
  let (whole, s) ← readWhole atEnd s
  let (fraction, s) ← readFraction atEnd s
  let (exponent, s) ← readExponent atEnd s
  return (⟨negative, whole, fraction, exponent⟩, s)

/-! ## The number of a numeral -/

/-- The value of a decimal digit. -/
def digitValue (c : Char) : Nat := c.toNat - 0x30

/-- The value of a row of digits. -/
def digitsValue (digits : List Char) : Nat :=
  digits.foldl (fun n c => n * 10 + digitValue c) 0

/-- Takes digits into a number as long as it has 64 bits; the digits from the first that does not
fit are left. -/
def absorb (n : Nat) : List Char → Nat × List Char
  | [] => (n, [])
  | c :: digits =>
    if n * 10 + digitValue c < 0x10000000000000000 then absorb (n * 10 + digitValue c) digits
    else (n, c :: digits)

/-- The value of an exponent's digits; if it does not have 31 bits, how many digits follow the one
that made it too large. -/
def exponentValue (n : Nat) : List Char → Except Nat Nat
  | [] => .ok n
  | c :: digits =>
    if n * 10 + digitValue c < 0x80000000 then exponentValue (n * 10 + digitValue c) digits
    else .error digits.length

namespace Numeral

/-- The integer of a numeral without point and exponent, if it has 64 bits. A minus sign before zero
makes no integer. -/
def integer? (n : Numeral) : Option JsonNumber :=
  let value := digitsValue n.whole
  if n.fraction.isSome ∨ n.exponent.isSome then none
  else if n.negative then
    if h : 0 < value ∧ value ≤ 0x8000000000000000 then
      some (.integer (-value) (by omega) (by omega))
    else none
  else
    if h : value < 0x10000000000000000 then some (.integer value (by omega) (by omega)) else none

/-- The leading digits of a numeral as a number of 64 bits, and the power of ten that belongs to
them before the exponent is counted. -/
def leading (n : Numeral) : Nat × Int :=
  let (m, left) := absorb 0 n.whole
  match n.fraction with
  | none => (m, left.length)
  | some digits =>
    let (m, unused) := absorb m digits
    (m, (left.length : Int) - (digits.length - unused.length : Nat))

/-- The magnitude of a numeral; if it is too large, how many digits follow the place where that is
certain. -/
def magnitude (n : Numeral) : Except Nat Binary64 :=
  let (m, e) := n.leading
  let scaled (e : Int) : Except Nat Binary64 :=
    match (Binary64.ofRatio? m 1).bind (·.scaleTen? e) with
    | some x => .ok x
    | none => .error 0
  match n.exponent with
  | none => scaled e
  | some (negative, digits) =>
    match exponentValue 0 digits with
    | .ok x => scaled (if negative then e - x else e + x)
    -- such an exponent decides alone, unless the digits or the sign make the number zero
    | .error unread => if m = 0 ∨ negative then .ok .zero else .error unread

/-- The number of a numeral. -/
def number (n : Numeral) : Except Nat JsonNumber :=
  match n.integer? with
  | some i => .ok i
  | none => n.magnitude.map (.double n.negative)

end Numeral

/-- Reads a number. -/
def readNumber (s : List Char) : Except Fault (JsonNumber × List Char) := do
  let (numeral, rest) ← readNumeral .endInValue s
  match numeral.number with
  | .ok n => return (n, rest)
  | .error unread => .error ⟨.numberOutOfRange, unread + Text.Utf8.length rest⟩

/-- Passes over a number, whatever its size. -/
def skipNumber (s : List Char) : Except Fault (List Char) := do
  -- a number that breaks off at the end of the text counts as malformed here
  let (_, rest) ← readNumeral .invalidNumber s
  return rest

end EntitlementClient.Json

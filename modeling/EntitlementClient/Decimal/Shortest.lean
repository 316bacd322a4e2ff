/-
Decimal text of a binary magnitude: the fewest digits that round to it, of those the nearest, and
the layout that places the point.
-/
import EntitlementClient.Decimal.Binary64

namespace EntitlementClient.Decimal

/-- The number `0.d₁d₂…dₙ · 10 ^ point`. -/
structure Digits where
  digits : List Char
  point : Int

namespace Binary64

/-! ## The interval of decimals that round to a magnitude -/

/-- Whether `c · 10 ^ p` is at most `h · 2 ^ q`. -/
def tenLe (c : Nat) (p : Int) (h : Nat) (q : Int) : Bool :=
  c * pow10 p.toNat * pow2 (-q).toNat ≤ h * pow2 q.toNat * pow10 (-p).toNat

/-- Whether `c · 10 ^ p` equals `h · 2 ^ q`. -/
def tenEq (c : Nat) (p : Int) (h : Nat) (q : Int) : Bool :=
  c * pow10 p.toNat * pow2 (-q).toNat == h * pow2 q.toNat * pow10 (-p).toNat

/-- The lower end of the interval in quarters of the last binary digit. Below a power of two the
neighbours lie half as far apart. -/
def lowerQuarters (x : Binary64) : Nat :=
  if x.mantissa = pow2 (precision - 1) ∧ leastExponent < x.exponent then 4 * x.mantissa - 1
  else 4 * x.mantissa - 2

/-- Whether `c · 10 ^ p` rounds to the magnitude: the ends of the interval do if the mantissa is
even. -/
def roundsFrom (x : Binary64) (c : Nat) (p : Int) : Bool :=
  let low := x.lowerQuarters
  let high := 4 * x.mantissa + 2
  let q := x.exponent - 2
  let ends := x.mantissa % 2 == 0
  (!tenLe c p low q || (ends && tenEq c p low q)) &&
    (tenLe c p high q && (ends || !tenEq c p high q))

/-! ## The search -/

/-- How many decimal digits a number has. -/
def digitCount (n : Nat) : Nat := (Nat.toDigits 10 n).length

/-- The power of ten just above the magnitude: `10 ^ (k - 1) ≤ x < 10 ^ k`. -/
def decimalPoint (x : Binary64) : Int :=
  let r := x.toRatio
  if r.2 ≤ r.1 then (digitCount (r.1 / r.2) : Int)
  else 1 - (digitCount ((r.2 - 1) / r.1) : Int)

/-- The decimals with `n` digits on either side of the magnitude that round to it, the nearer one
first: numerators on the grid `10 ^ (point - n)`. -/
def candidate? (x : Binary64) (point : Int) (n : Nat) : Option Nat :=
  let p := point - n
  let r := x.toRatio
  let num := r.1 * pow10 (-p).toNat
  let den := r.2 * pow10 p.toNat
  let below := num / den
  let twice := 2 * (num % den)
  -- of two neighbours at the same distance the even one comes first
  let upFirst := den < twice ∨ (den = twice ∧ below % 2 = 1)
  let first := if upFirst then below + 1 else below
  let second := if upFirst then below else below + 1
  if x.roundsFrom first p then some first
  else if x.roundsFrom second p then some second
  else none

/-- Searches the grids with `n` digits and more, up to `n + more`. Seventeen digits always
suffice. -/
def search (x : Binary64) (point : Int) (n : Nat) : Nat → Nat × Nat
  | 0 => (((x.candidate? point n).getD 0), n)
  | more + 1 =>
    match x.candidate? point n with
    | some c => (c, n)
    | none => x.search point (n + 1) more

/-- The digits of the shortest decimal that rounds to the magnitude. -/
def shortest (x : Binary64) : Digits :=
  if x.mantissa = 0 then ⟨['0'], 1⟩
  else
    let point := x.decimalPoint
    let found := x.search point 1 16
    let digits := Nat.toDigits 10 found.1
    let kept := (digits.reverse.dropWhile (· == '0')).reverse
    ⟨kept, point + digits.length - found.2⟩

end Binary64

/-! ## Layout -/

/-- How a decimal is laid out: the exponents of ten for which every digit is written out. -/
structure Layout where
  leastPlain : Int
  greatestPlain : Int

/-- Magnitudes from `10 ^ -5` up to `10 ^ 16` are written out, always with a point and a digit after
it. -/
def Layout.number : Layout := ⟨-5, 15⟩

/-- The digits with the point in its place. -/
def Digits.plain (d : Digits) : List Char :=
  let n := d.digits.length
  if d.point ≤ 0 then
    ['0', '.'] ++ List.replicate (-d.point).toNat '0' ++ d.digits
  else if (n : Int) ≤ d.point then
    d.digits ++ List.replicate (d.point - n).toNat '0' ++ ['.', '0']
  else d.digits.take d.point.toNat ++ ['.'] ++ d.digits.drop d.point.toNat

/-- One digit, the others after a point, and the power of ten with its sign. -/
def Digits.scientific (d : Digits) : List Char :=
  let e := d.point - 1
  let sign := if e < 0 then '-' else '+'
  let fraction := d.digits.drop 1
  d.digits.take 1 ++ (if fraction.isEmpty then [] else '.' :: fraction) ++
    ['e', sign] ++ Nat.toDigits 10 e.natAbs

/-- The text of a decimal. -/
def Digits.text (layout : Layout) (d : Digits) : List Char :=
  let e := d.point - 1
  if layout.leastPlain ≤ e ∧ e ≤ layout.greatestPlain then d.plain else d.scientific

end EntitlementClient.Decimal

/-
The finite numbers of the 64-bit binary format, as magnitudes `mantissa · 2 ^ exponent`, and
arithmetic on them: every operation computes exactly and rounds once, to the nearest magnitude and
a tie to the even one.
-/

namespace EntitlementClient.Decimal

/-- The power of two, `2 ^ n`. -/
def pow2 (n : Nat) : Nat := Nat.pow 2 n

/-- The power of ten, `10 ^ n`. -/
def pow10 (n : Nat) : Nat := Nat.pow 10 n

/-- A magnitude `mantissa · 2 ^ exponent`. The mantissa is below `2 ^ 53`, and below `2 ^ 52` only
where the exponent is the least one. -/
structure Binary64 where
  mantissa : Nat
  exponent : Int
deriving DecidableEq

namespace Binary64

/-- How many binary digits a mantissa has. -/
def precision : Nat := 53

/-- The exponent of the smallest magnitudes. -/
def leastExponent : Int := -1074

/-- The exponent of the largest magnitudes. -/
def greatestExponent : Int := 971

/-- The magnitude zero. -/
def zero : Binary64 := ⟨0, leastExponent⟩

/-- The quotient of two numbers rounded to the nearest integer, a tie to the even one. -/
def roundDiv (num den : Nat) : Nat :=
  let q := num / den
  let r := num % den
  if den < 2 * r ∨ (den = 2 * r ∧ q % 2 = 1) then q + 1 else q

/-- A quotient divided by a power of two, as a quotient. -/
def scaleDown (num den : Nat) (e : Int) : Nat × Nat :=
  (num * pow2 (-e).toNat, den * pow2 e.toNat)

/-- The exponent at which `num / den` has a mantissa of full precision, or the least exponent. -/
def fitExponent (num den : Nat) : Int :=
  let guess : Int := (Nat.log2 num : Int) - Nat.log2 den - (precision - 1)
  -- the difference of the logarithms is too large by one if `num` has the smaller leading digits
  let scaled := scaleDown num den guess
  let e := if scaled.1 / scaled.2 < pow2 (precision - 1) then guess - 1 else guess
  max e leastExponent

/-- The magnitude nearest to `num / den`; `none` if it is beyond the largest one. -/
def ofRatio? (num den : Nat) : Option Binary64 :=
  if num = 0 then some zero
  else
    let e := fitExponent num den
    let scaled := scaleDown num den e
    let m := roundDiv scaled.1 scaled.2
    -- rounding up can carry into one more digit
    let rounded : Binary64 := if m = pow2 precision then ⟨m / 2, e + 1⟩ else ⟨m, e⟩
    if greatestExponent < rounded.exponent then none else some rounded

/-- A magnitude as a quotient of natural numbers. -/
def toRatio (x : Binary64) : Nat × Nat :=
  (x.mantissa * pow2 x.exponent.toNat, pow2 (-x.exponent).toNat)

/-- The product of two magnitudes, rounded. -/
def mul? (x y : Binary64) : Option Binary64 :=
  ofRatio? (x.toRatio.1 * y.toRatio.1) (x.toRatio.2 * y.toRatio.2)

/-- The quotient of two magnitudes, rounded. -/
def div? (x y : Binary64) : Option Binary64 :=
  ofRatio? (x.toRatio.1 * y.toRatio.2) (x.toRatio.2 * y.toRatio.1)

/-- The magnitude nearest to a power of ten; `none` beyond `10 ^ 308`. -/
def tenPow? (n : Nat) : Option Binary64 :=
  if n ≤ 308 then ofRatio? (pow10 n) 1 else none

/-- A number times ten to the power `exponent`, in as few roundings as the powers of ten up to
`10 ^ 308` allow; `none` if it grows beyond the largest magnitude. -/
def scaleTen? (x : Binary64) (exponent : Int) : Option Binary64 :=
  if exponent < -308 then
    if x.mantissa = 0 then some x
    else do
      let ten ← tenPow? 308
      let smaller ← x.div? ten
      smaller.scaleTen? (exponent + 308)
  else if exponent < 0 then do
    let ten ← tenPow? exponent.natAbs
    x.div? ten
  else if exponent ≤ 308 then do
    let ten ← tenPow? exponent.natAbs
    x.mul? ten
  else if x.mantissa = 0 then some x
  else none
termination_by (-exponent).toNat
decreasing_by omega

end Binary64

end EntitlementClient.Decimal

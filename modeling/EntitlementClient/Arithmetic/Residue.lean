/-
Calculation with remainders: differences and quotients modulo a number.
-/

namespace EntitlementClient.Residue

/-- The difference of two numbers modulo `m`. -/
def sub (m a b : Nat) : Nat :=
  (a % m + (m - b % m)) % m

/-- Two steps of the Euclidean algorithm: the remainders `r` and `r'`, of which the second is the
smaller, are `t` and `t'` times the number whose inverse is sought. The result belongs to the last
remainder that is not zero. -/
def cofactor (m r t r' t' : Nat) : Nat :=
  if h : r' = 0 then t
  else
    have := Nat.mod_lt r (Nat.pos_of_ne_zero h)
    cofactor m r' t' (r % r') (sub m t (r / r' * t'))
termination_by r'

/-- The number that gives one times `a` modulo `m`, if there is one. -/
def inverse (m a : Nat) : Nat :=
  cofactor m m 0 (a % m) 1

/-- The quotient of two numbers modulo `m`. -/
def div (m a b : Nat) : Nat :=
  a * inverse m b % m

end EntitlementClient.Residue

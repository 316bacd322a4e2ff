/-
Multiples of an element by repeated doubling.
-/

namespace EntitlementClient

/-- The element that comes of adding `n` times an element, for an addition that is associative. -/
def multiple {α : Type} (add : α → α → α) (zero : α) (n : Nat) (a : α) : α :=
  if h : n = 0 then zero
  else
    have := Nat.div_lt_self (Nat.pos_of_ne_zero h) (Nat.lt_succ_self 1)
    let half := multiple add zero (n / 2) a
    let twice := add half half
    if n % 2 = 1 then add twice a else twice
termination_by n

end EntitlementClient

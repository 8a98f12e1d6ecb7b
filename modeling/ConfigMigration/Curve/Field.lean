/-!
# Prime fields

The numbers below a prime, with subtraction and division, and multiples of what can be added.
-/

namespace ConfigMigration.Curve

/-- The difference of two numbers below a modulus. -/
def subtract (m a b : Nat) : Nat := (a + (m - b)) % m

/-- A step of the division of `r` by `s`, where `t` and `u` times the same number leave them as remainders. -/
def inverseFrom (r s : Nat) (t u : Int) : Int :=
  if s = 0 then t else inverseFrom s (r % s) u (t - (r / s : Nat) * u)
termination_by s
decreasing_by exact Nat.mod_lt _ (by omega)

/-- The number of which the product with a number leaves the remainder one. -/
def inverse (m a : Nat) : Nat :=
  (inverseFrom m (a % m) 0 1 % (m : Int)).toNat

/-- The quotient of two numbers. -/
def divide (m a b : Nat) : Nat := a * inverse m b % m

/-- The sum of a number of equal terms. -/
def multiple {α : Type} (add : α → α → α) (zero : α) (n : Nat) (a : α) : α :=
  if n = 0 then zero
  else
    let rest := multiple add zero (n / 2) (add a a)
    if n % 2 = 0 then rest else add a rest
termination_by n

end ConfigMigration.Curve

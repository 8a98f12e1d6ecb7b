/-!
# Rounding quotients

The quotient of two natural numbers, rounded to the nearest natural number; a half goes to the even neighbour.
-/

namespace ConfigMigration.Number

/-- The natural number nearest to `n / d`; of two equally near the even one. -/
def roundEven (n d : Nat) : Nat :=
  let q := n / d
  let r := n % d
  if 2 * r < d then q
  else if d < 2 * r then q + 1
  else q + q % 2

/-- Rounding never goes below the whole part of the quotient. -/
theorem div_le_roundEven (n d : Nat) : n / d ≤ roundEven n d := by
  unfold roundEven
  simp only
  split
  · exact Nat.le_refl _
  · split <;> omega

end ConfigMigration.Number

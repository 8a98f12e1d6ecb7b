import ConfigMigration.Number.Binary64

/-!
# Shortest decimals

The decimal with the fewest digits that reads back as a given double.  Of the decimals with that many digits it is
the one nearest to the double, and of two equally near the one whose coefficient is even.
-/

namespace ConfigMigration

/-- A natural number times a power of ten. -/
structure Decimal where
  /-- The digits, read as a natural number. -/
  coefficient : Nat
  /-- The power of ten. -/
  exponent : Int
deriving DecidableEq, Repr

namespace Decimal

/-- The decimal digits of a natural number. -/
def digits (n : Nat) : List Char := Nat.toDigits 10 n

/-- The greatest `k` with `10 ^ k ≤ n / d`, for a positive ratio. -/
def floorLog10 (n d : Nat) : Int :=
  if d ≤ n then ((digits (n / d)).length : Int) - 1
  else -((digits ((d + n - 1) / n - 1)).length : Int)

/-- The same decimal without zeros at the end of its coefficient. -/
def reduce (x : Decimal) : Decimal :=
  if 10 ≤ x.coefficient ∧ x.coefficient % 10 = 0 then reduce ⟨x.coefficient / 10, x.exponent + 1⟩ else x
termination_by x.coefficient
decreasing_by omega

/-- The exact value of a double's magnitude. -/
def ofBinary64 (x : Binary64) : Decimal :=
  if 0 ≤ x.exponent then ⟨x.significand * Nat.pow 2 x.exponent.toNat, 0⟩
  else ⟨x.significand * Nat.pow 5 (-x.exponent).toNat, x.exponent⟩

end Decimal

namespace Binary64

/-- The lower end of the reals that round to the magnitude, in quarters of the last place. -/
def lowerEnd (x : Binary64) : Nat :=
  -- Below a power of two the doubles lie twice as close.
  if x.significand = hiddenBit ∧ -1074 < x.exponent then 4 * x.significand - 1 else 4 * x.significand - 2

/-- The multiple of `10 ^ p` that reads back as the magnitude, where one of the two next to it does. -/
def neighbour? (x : Binary64) (p : Int) : Option Decimal :=
  let e := x.exponent - 2
  -- Quarters of the last place and steps of the grid, as multiples of one common unit.
  let quarter := Nat.pow 2 e.toNat * Nat.pow 10 (-p).toNat
  let step := Nat.pow 2 (-e).toNat * Nat.pow 10 p.toNat
  let value := 4 * x.significand * quarter
  let below := value / step
  let readsBack (c : Nat) : Bool :=
    if x.significand % 2 = 0 then
      x.lowerEnd * quarter ≤ c * step && c * step ≤ (4 * x.significand + 2) * quarter
    else x.lowerEnd * quarter < c * step && c * step < (4 * x.significand + 2) * quarter
  if readsBack below then
    if readsBack (below + 1) then some ⟨Number.roundEven value step, p⟩ else some ⟨below, p⟩
  else if readsBack (below + 1) then some ⟨below + 1, p⟩ else none

/-- The decimal with the fewest digits that reads back as the magnitude. -/
def shortest (x : Binary64) : Decimal :=
  if x.isZero then ⟨0, 0⟩
  else
    let lead := Decimal.floorLog10 x.ratio.1 x.ratio.2
    let found := (List.range 17).findSome? fun (places : Nat) => x.neighbour? (lead - places)
    (found.getD (.ofBinary64 x)).reduce

end Binary64

end ConfigMigration

import ConfigMigration.Curve.Field

/-!
# The Edwards curve

The points with `y * y - x * x = 1 + d * x * x * y * y` over the field of a prime of 255 bits.  The sum of two points
is given by one rule for all of them.
-/

namespace ConfigMigration.Edwards

open Curve (subtract divide)

/-- The size of the field. -/
def prime : Nat := 0x7fffffffffffffffffffffffffffffffffffffffffffffffffffffffffffffed

/-- The constant of the curve. -/
def d : Nat := 0x52036cee2b6ffe738cc740797779e89800700a4d4141d8ab75eb4dca135978a3

/-- The point of which all others in use are multiples. -/
def base : Nat × Nat :=
  (0x216936d3cd6e53fec0a4e231fdd6dc5c692cc7609525a7b2c9562d608f25d51a,
    0x6666666666666666666666666666666666666666666666666666666666666658)

/-- The sum of two points. -/
def add (a b : Nat × Nat) : Nat × Nat :=
  let t := d * (a.1 * b.1 % prime) * (a.2 * b.2 % prime) % prime
  (divide prime (a.1 * b.2 + a.2 * b.1) (1 + t), divide prime (a.2 * b.2 + a.1 * b.1) (subtract prime 1 t))

/-- A multiple of the base. -/
def multiple (n : Nat) : Nat × Nat :=
  Curve.multiple add (0, 1) n base

end ConfigMigration.Edwards

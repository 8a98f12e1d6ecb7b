import ConfigMigration.Curve.Field

/-!
# Weierstrass curves

The points with `y * y = x * x * x - 3 * x + b` over a prime field, and one at infinity.  Points are added along
lines, which do not depend on `b`: the first point that is used settles it.
-/

namespace ConfigMigration

/-- A curve. -/
structure WeierstrassCurve where
  /-- The size of the field. -/
  prime : Nat
  /-- The point of which all others in use are multiples. -/
  base : Nat × Nat
  /-- How many multiples it has. -/
  order : Nat
  /-- How many bytes a number of the field has. -/
  width : Nat

namespace WeierstrassCurve

open Curve (subtract divide)

/-- The curve of 256 bits. -/
def p256 : WeierstrassCurve where
  prime := 0xffffffff00000001000000000000000000000000ffffffffffffffffffffffff
  base :=
    (0x6b17d1f2e12c4247f8bce6e563a440f277037d812deb33a0f4a13945d898c296,
      0x4fe342e2fe1a7f9b8ee7eb4a7c0f9e162bce33576b315ececbb6406837bf51f5)
  order := 0xffffffff00000000ffffffffffffffffbce6faada7179e84f3b9cac2fc632551
  width := 32

/-- The curve of 384 bits. -/
def p384 : WeierstrassCurve where
  prime :=
    0xfffffffffffffffffffffffffffffffffffffffffffffffffffffffffffffffeffffffff0000000000000000ffffffff
  base :=
    (0xaa87ca22be8b05378eb1c71ef320ad746e1d3b628ba79b9859f741e082542a385502f25dbf55296c3a545e3872760ab7,
      0x3617de4a96262c6f5d9e98bf9292dc29f8f41dbd289a147ce9da3113b5f0b8c00a60b1ce1d7e819d7a431d7c90ea0e5f)
  order := 0xffffffffffffffffffffffffffffffffffffffffffffffffc7634d81f4372ddf581a0db248b0a77aecec196accc52973
  width := 48

variable (c : WeierstrassCurve)

/-- The third point on a line with a slope through two points, on the other side of the axis. -/
def reflect (slope x₁ y₁ x₂ : Nat) : Nat × Nat :=
  let x := subtract c.prime (slope * slope) ((x₁ + x₂) % c.prime)
  (x, subtract c.prime (slope * subtract c.prime x₁ x) y₁)

/-- The sum of two points.  The one at infinity is neutral. -/
def add : Option (Nat × Nat) → Option (Nat × Nat) → Option (Nat × Nat)
  | none, b => b
  | a, none => a
  | some (x₁, y₁), some (x₂, y₂) =>
    if x₁ ≠ x₂ then
      some (c.reflect (divide c.prime (subtract c.prime y₂ y₁) (subtract c.prime x₂ x₁)) x₁ y₁ x₂)
    else if y₁ = y₂ ∧ y₁ ≠ 0 then
      some (c.reflect (divide c.prime (subtract c.prime (3 * x₁ * x₁) 3) (2 * y₁)) x₁ y₁ x₂)
    else none

/-- A multiple of the base. -/
def multiple (n : Nat) : Option (Nat × Nat) :=
  Curve.multiple c.add none n (some c.base)

end WeierstrassCurve

end ConfigMigration

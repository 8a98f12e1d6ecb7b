import ConfigMigration.Number.Rounding

/-!
# Doubles

Finite binary floating-point numbers of 64 bits, held as a sign and the bit pattern of the magnitude.  The bit
patterns are in the order of the magnitudes they stand for, and every operation rounds an exact ratio once.
-/

namespace ConfigMigration

/-- The weight of the leading bit of a significand, which the bit pattern leaves out. -/
def Binary64.hiddenBit : Nat := 0x10000000000000

/-- The bit pattern of infinity: every pattern below it stands for a finite magnitude. -/
def Binary64.infinityBits : Nat := 2047 * Binary64.hiddenBit

/-- A finite double. -/
structure Binary64 where
  /-- The sign bit; it also tells the two zeros apart. -/
  negative : Bool
  /-- The bit pattern of the magnitude. -/
  magnitude : Nat
  /-- The magnitude is finite. -/
  finite : magnitude < Binary64.infinityBits
deriving DecidableEq

namespace Binary64

/-- Zero. -/
def zero : Binary64 := ⟨false, 0, by decide⟩

instance : Inhabited Binary64 := ⟨zero⟩

/-- The double of the other sign. -/
def neg (x : Binary64) : Binary64 := { x with negative := !x.negative }

/-- Whether the double is one of the two zeros. -/
def isZero (x : Binary64) : Bool := x.magnitude == 0

/-- The significand: the magnitude is `significand * 2 ^ exponent`. -/
def significand (x : Binary64) : Nat :=
  if x.magnitude < hiddenBit then x.magnitude else hiddenBit + x.magnitude % hiddenBit

/-- The exponent of the last bit of the significand. -/
def exponent (x : Binary64) : Int :=
  if x.magnitude < hiddenBit then -1074 else (x.magnitude / hiddenBit : Nat) - 1075

/-- The magnitude as a ratio of natural numbers. -/
def ratio (x : Binary64) : Nat × Nat :=
  (x.significand * Nat.pow 2 x.exponent.toNat, Nat.pow 2 (-x.exponent).toNat)

/-- The ratio `n / d` in units of `2 ^ e`. -/
def inUnits (n d : Nat) (e : Int) : Nat × Nat :=
  (n * Nat.pow 2 (-e).toNat, d * Nat.pow 2 e.toNat)

/-- The exponent of the last bit of the double nearest to the positive ratio `n / d`. -/
def lastBit (n d : Nat) : Int :=
  let e : Int := n.log2 - d.log2 - 52
  let scaled := inUnits n d e
  max (if scaled.1 / scaled.2 < hiddenBit then e - 1 else e) (-1074)

/-- The double nearest to `n / d`, ties to even; `none` where that is not finite. -/
def ofRatio? (n d : Nat) : Option Binary64 :=
  if n = 0 then some zero
  else
    let e := lastBit n d
    let scaled := inUnits n d e
    -- A significand that rounds up to the next power of two carries into the exponent by itself.
    let bits := (e + 1074).toNat * hiddenBit + Number.roundEven scaled.1 scaled.2
    if h : bits < infinityBits then some ⟨false, bits, h⟩ else none

/-- The rounded product of two doubles, or `none` where it is not finite. -/
def mul? (x y : Binary64) : Option Binary64 :=
  (ofRatio? (x.ratio.1 * y.ratio.1) (x.ratio.2 * y.ratio.2)).map fun z =>
    { z with negative := x.negative != y.negative }

/-- The rounded quotient of two doubles, or `none` where it is not finite; the divisor is not zero. -/
def div? (x y : Binary64) : Option Binary64 :=
  (ofRatio? (x.ratio.1 * y.ratio.2) (x.ratio.2 * y.ratio.1)).map fun z =>
    { z with negative := x.negative != y.negative }

/-- The double nearest to a natural number, or `none` where that is not finite. -/
def ofNat? (n : Nat) : Option Binary64 := ofRatio? n 1

example : (ofNat? 1).map magnitude = some 0x3FF0000000000000 := by decide
example : (ofRatio? 1 10).map magnitude = some 0x3FB999999999999A := by decide +kernel

end Binary64

end ConfigMigration

import ConfigMigration.Number.Basic

/-!
# Numerals

A numeral is a number as it is spelled in JSON text.  A numeral without fraction and exponent that fits 64 bits is
an integer.  Any other stands for the double that one rounded multiplication or division gives: the leading digits
that fit 64 bits, as a double, times or divided by a power of ten.
-/

namespace ConfigMigration.Json

/-- A number as it is spelled. -/
structure Numeral where
  /-- Whether a minus sign stands in front. -/
  negative : Bool := false
  /-- The digits before the point. -/
  whole : List Nat := []
  /-- The digits after the point. -/
  fraction : List Nat := []
  /-- Whether the exponent is negative, and its digits. -/
  exponent : Option (Bool × List Nat) := none
deriving DecidableEq, Repr

namespace Numeral

/-- The leading digits of a numeral, as far as they fit 64 bits, and the power of ten that goes with them. -/
structure Lead where
  /-- The digits that fit. -/
  significand : Nat := 0
  /-- The power of ten. -/
  power : Int := 0
  /-- Whether a digit did not fit. -/
  full : Bool := false

/-- The greatest number that fits 64 bits. -/
def maxSignificand : Nat := UInt64.size - 1

/-- Adds a digit before the point.  From the first digit that does not fit, each one counts as a power of ten. -/
def Lead.pushWhole (l : Lead) (digit : Nat) : Lead :=
  if l.full || maxSignificand < l.significand * 10 + digit then { l with power := l.power + 1, full := true }
  else { l with significand := l.significand * 10 + digit }

/-- Adds a digit after the point.  From the first digit that does not fit, each one is left out. -/
def Lead.pushFraction (l : Lead) (digit : Nat) : Lead :=
  if l.full || maxSignificand < l.significand * 10 + digit then { l with full := true }
  else { l with significand := l.significand * 10 + digit, power := l.power - 1 }

/-- The rounded power of ten with exponent `n`, for `n` up to 308. -/
def powerOfTen (n : Nat) : Binary64 :=
  (Binary64.ofNat? (Nat.pow 10 n)).getD .zero

/-- The double `x` times the power of ten with exponent `e`, or `none` where that is not finite. -/
def scale? (x : Binary64) (e : Int) : Option Binary64 :=
  if e.natAbs ≤ 308 then
    if 0 ≤ e then x.mul? (powerOfTen e.natAbs) else x.div? (powerOfTen e.natAbs)
  else if x.isZero then some x
  else if 0 ≤ e then none
  else do scale? (← x.div? (powerOfTen 308)) (e + 308)
termination_by e.natAbs
decreasing_by omega

/-- The number with the digits `digits`. -/
def ofDigits (digits : List Nat) : Nat :=
  digits.foldl (fun n digit => 10 * n + digit) 0

/-- The greatest exponent that is not too large to be counted. -/
def maxExponent : Nat := 0x7FFFFFFF

/-- The double of a sign, leading digits and an exponent. -/
def toBinary64? (negative : Bool) (l : Lead) (exponent : Option (Bool × List Nat)) : Option Binary64 := do
  let magnitude ←
    match exponent with
    | none => scale? (← Binary64.ofNat? l.significand) l.power
    | some (below, digits) =>
      let e := ofDigits digits
      if maxExponent < e then
        if l.significand ≠ 0 && !below then none else some .zero
      else scale? (← Binary64.ofNat? l.significand) (if below then l.power - e else l.power + e)
  some { magnitude with negative }

/-- The number that a numeral stands for, or `none` where it is out of range. -/
def toNumber? (numeral : Numeral) : Option Number :=
  let lead := numeral.whole.foldl Lead.pushWhole {}
  if numeral.fraction.isEmpty && numeral.exponent.isNone && !lead.full then
    if !numeral.negative then some (.integer lead.significand)
    else if lead.significand ≠ 0 && lead.significand ≤ 0x8000000000000000 then some (.integer (-lead.significand))
    else (toBinary64? true lead none).map .double
  else
    let lead := numeral.fraction.foldl Lead.pushFraction { lead with full := false }
    (toBinary64? numeral.negative lead numeral.exponent).map .double

end Numeral

end ConfigMigration.Json

/-!
# Digits

Digits in bases up to sixteen, where letters of either case continue the ten digits, and the numbers they spell.
-/

namespace ConfigMigration.Text

/-- The value of a digit in bases up to sixteen. -/
def digit? (base : Nat) (c : Char) : Option Nat :=
  let n := if c.isDigit then c.toNat - '0'.toNat else c.toLower.toNat - 'a'.toNat + 10
  if c.isAlphanum ∧ n < base then some n else none

/-- The number that digits spell; none of them spell zero. -/
def number? (base : Nat) (digits : List Char) : Option Nat :=
  digits.foldlM (fun n c => (digit? base c).map (n * base + ·)) 0

end ConfigMigration.Text

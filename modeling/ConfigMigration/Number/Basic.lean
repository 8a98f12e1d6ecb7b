import ConfigMigration.Number.Shortest

/-!
# Numbers

A number is an integer or a double, and its text tells which: a double always shows a point or an exponent.
-/

namespace ConfigMigration

/-- A number as configuration trees hold it. -/
inductive Number where
  /-- An integer. -/
  | integer (n : Int)
  /-- A double. -/
  | double (x : Binary64)
deriving DecidableEq

/-- The decimal text of an integer. -/
def integerText : Int → List Char
  | .ofNat n => Decimal.digits n
  | .negSucc n => '-' :: Decimal.digits (n + 1)

/-- The text of a decimal.  It is positional from `10 ^ -5` up to, but not including, `10 ^ 16`, with a zero after
the point of a whole number, and has one digit before the point and a signed exponent elsewhere. -/
def Decimal.text (x : Decimal) : List Char :=
  let ds := digits x.coefficient
  let lead := (ds.length : Int) - 1 + x.exponent
  if -5 ≤ lead ∧ lead < 16 then
    if 0 ≤ x.exponent then ds ++ List.replicate x.exponent.toNat '0' ++ ['.', '0']
    else if 0 ≤ lead then ds.take (lead.toNat + 1) ++ '.' :: ds.drop (lead.toNat + 1)
    else ['0', '.'] ++ List.replicate (-lead - 1).toNat '0' ++ ds
  else
    let tail := ds.drop 1
    ds.take 1 ++ (if tail.isEmpty then [] else '.' :: tail) ++ ['e', if lead < 0 then '-' else '+'] ++
      digits lead.natAbs

/-- The text of a double: its sign and the shortest decimal that reads back. -/
def Binary64.text (x : Binary64) : List Char :=
  if x.negative then '-' :: x.shortest.text else x.shortest.text

/-- The text of a number. -/
def Number.text : Number → List Char
  | .integer n => integerText n
  | .double x => x.text

end ConfigMigration

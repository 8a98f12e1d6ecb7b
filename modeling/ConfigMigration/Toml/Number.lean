import ConfigMigration.Toml.Basic
import ConfigMigration.Toml.Quoted

/-!
# Numbers and moments of TOML
-/

namespace ConfigMigration.Toml

open Reader

/-! ### Numbers -/

/-- Takes digits of a base, with single underscores between them. -/
def digits (base : Nat) : Reader (List Char) := do
  let first ← one (isDigitOf base)
  return first :: (← many (one (isDigitOf base) <|> (char '_' *> one (isDigitOf base))))

/-- Takes a sign, and tells whether it is a minus sign. -/
def sign : Reader Bool :=
  (char '-' *> pure true) <|> (char '+' *> pure false) <|> pure false

/-- Takes decimal digits without a zero in front. -/
def whole : Reader (List Char) :=
  (do return [← one (· = '0')]) <|> digits 10

/-- Takes a nonnegative integer in a base that is marked by its two first characters. -/
def inBase (mark : String) (base : Nat) : Reader Int := do
  word mark
  return numberOf base (← digits base)

/-- Takes an integer. -/
def integer : Reader Value := do
  let n ← inBase "0x" 16 <|> inBase "0o" 8 <|> inBase "0b" 2 <|> do
    let negative ← sign
    let n : Int := numberOf 10 (← whole)
    return if negative then -n else n
  guard (Int64.minValue.toInt ≤ n ∧ n ≤ Int64.maxValue.toInt)
  return .integer n

/-- The least number that is rounded to infinity. -/
def overflow : Nat := Nat.pow 2 1024 - Nat.pow 2 970

/-- Whether a decimal number is too large for 64 bits: its digits, and the power of ten of the last one. -/
def isTooLarge (n : Nat) (digitCount : Nat) (exponent : Int) : Bool :=
  if n = 0 then false
  else match exponent with
    | .ofNat e => 400 < e || overflow ≤ n * Nat.pow 10 e
    | .negSucc e => e + 1 ≤ digitCount && overflow * Nat.pow 10 (e + 1) ≤ n

/-- Takes an exponent. -/
def exponent : Reader Int := do
  discard (one fun c => c = 'e' || c = 'E')
  let negative ← sign
  let n : Int := numberOf 10 (← digits 10)
  return if negative then -n else n

/-- Takes a decimal number with a point or an exponent. -/
def decimal : Reader Unit := do
  let negative ← sign
  let front ← whole
  let (back, e) ← (do return ([], ← exponent)) <|> do
    char '.'
    return (← digits 10, ← exponent <|> pure 0)
  let all := front ++ back
  guard (negative || !isTooLarge (numberOf 10 all) all.length (e - back.length))

/-- Takes a number that is no integer. -/
def float : Reader Value :=
  Value.float <$> lexeme (decimal <|> (sign *> (word "inf" <|> word "nan")))

/-! ### Moments -/

/-- Takes a number of a fixed count of digits within bounds. -/
def field (count least most : Nat) : Reader Nat := do
  let n := numberOf 10 (← exactly Char.isDigit count)
  guard (least ≤ n ∧ n ≤ most)
  return n

/-- The number of days of a month. -/
def daysIn (year month : Nat) : Nat :=
  if month = 2 then if year % 4 = 0 ∧ (year % 100 ≠ 0 ∨ year % 400 = 0) then 29 else 28
  else if month = 4 ∨ month = 6 ∨ month = 9 ∨ month = 11 then 30
  else 31

/-- Takes a date. -/
def date : Reader Unit := do
  let year ← field 4 0 9999
  char '-'
  let month ← field 2 1 12
  char '-'
  discard (field 2 1 (daysIn year month))

/-- Takes a time of day. -/
def time : Reader Unit := do
  discard (field 2 0 23)
  char ':'
  discard (field 2 0 59)
  char ':'
  discard (field 2 0 60)
  discard (optional (char '.' *> one Char.isDigit *> run Char.isDigit))

/-- Takes the distance from universal time. -/
def offset : Reader Unit :=
  discard (one fun c => c = 'Z' || c = 'z') <|> do
    discard (one fun c => c = '+' || c = '-')
    discard (field 2 0 23)
    char ':'
    discard (field 2 0 59)

/-- Takes a date, a time, or both. -/
def moment : Reader Value :=
  Value.moment <$> lexeme ((date *> discard (optional withTime)) <|> time)
where
  /-- Takes the time behind a date. -/
  withTime : Reader Unit := do
    discard (one fun c => c = 'T' || c = 't' || c = ' ')
    time
    discard (optional offset)

/-- Takes a truth value. -/
def bool : Reader Value :=
  (word "true" *> pure (.bool true)) <|> (word "false" *> pure (.bool false))

/-- Takes a value that is no array and no table. -/
def simple : Reader Value :=
  Value.string <$> Quotes.double.string <|> Value.string <$> Quotes.single.string <|>
    bool <|> moment <|> float <|> integer

end ConfigMigration.Toml

/-!
# TOML values
-/

namespace ConfigMigration.Toml

/-- A value of a TOML document.  Of a number with a point and of a moment only the spelling is kept. -/
inductive Value where
  /-- A text. -/
  | string (s : String)
  /-- An integer. -/
  | integer (n : Int)
  /-- A truth value. -/
  | bool (b : Bool)
  /-- A number with a point or an exponent, an infinity, or no number. -/
  | float (spelling : String)
  /-- A date, a time, or both. -/
  | moment (spelling : String)
  /-- An array. -/
  | array (items : List Value)
  /-- A table. -/
  | table (entries : List (String × Value))
deriving Repr

namespace Value

/-- The text of a value that is one. -/
def string? : Value → Option String
  | string s => some s
  | _ => none

/-- The truth value of a value that is one. -/
def bool? : Value → Option Bool
  | bool b => some b
  | _ => none

/-- The natural number of a value that is one. -/
def nat? : Value → Option Nat
  | integer (.ofNat n) => some n
  | _ => none

/-- The members of a record with the given names.  A record is a table, which must not have other names, or an array
of its members in the order of the names, of which any number may be missing at the end. -/
def members? (names : List String) : Value → Option (List (String × Value))
  | table entries => if entries.all fun entry => entry.1 ∈ names then some entries else none
  | array items => some (names.zip items)
  | _ => none

end Value

end ConfigMigration.Toml

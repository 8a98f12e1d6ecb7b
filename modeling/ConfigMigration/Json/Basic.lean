import ConfigMigration.Dictionary
import ConfigMigration.Number.Basic

/-!
# JSON values

A configuration tree is a JSON value.  Objects list their members in the order in which they are written; the ones
that are read from a text or edited as trees are dictionaries.
-/

namespace ConfigMigration

/-- A JSON value. -/
inductive Json where
  /-- The null value. -/
  | null
  /-- A truth value. -/
  | bool (b : Bool)
  /-- A number. -/
  | number (n : Number)
  /-- A string. -/
  | string (s : String)
  /-- An array. -/
  | array (items : List Json)
  /-- An object. -/
  | object (members : List (String × Json))

namespace Json

instance : Inhabited Json := ⟨null⟩

/-- The object without members. -/
def emptyObject : Json := object []

/-- The integer `n`. -/
def ofInt (n : Int) : Json := number (.integer n)

/-- The member of an object under a name; other values have no members. -/
def member? (name : String) : Json → Option Json
  | object members => members.lookup name
  | _ => none

/-- The items of an array; other values have none. -/
def items? : Json → Option (List Json)
  | array items => some items
  | _ => none

/-- The text of a scalar: a string stands for itself, and null is no scalar. -/
def scalarText? : Json → Option String
  | string s => some s
  | number n => some (String.ofList n.text)
  | bool b => some (if b then "true" else "false")
  | _ => none

end Json

end ConfigMigration

/-!
# Faults of JSON text

The three ways in which a text fails to be the JSON value that was asked for.
-/

namespace ConfigMigration.Json

/-- Why a JSON text cannot be read. -/
inductive Fault where
  /-- The text ends too early. -/
  | ended
  /-- The text is no JSON. -/
  | malformed
  /-- The text is well formed so far, but holds another kind of value, or an object lacks or repeats a member. -/
  | mismatched
deriving DecidableEq, Repr

/-- The name under which a fault is reported. -/
def Fault.text : Fault → String
  | ended => "<json:eof>"
  | malformed => "<json:syntax>"
  | mismatched => "<json:data>"

end ConfigMigration.Json

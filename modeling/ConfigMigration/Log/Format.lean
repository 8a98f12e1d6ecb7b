import ConfigMigration.Event
import ConfigMigration.Json.Printer

/-!
# Lines of the log

An event is written as one line of text, or as a JSON object.
-/

namespace ConfigMigration

/-- How events are written. -/
inductive LogFormat where
  /-- As text. -/
  | text
  /-- As JSON objects. -/
  | json
deriving DecidableEq, Repr

/-- The name of a format. -/
def LogFormat.name : LogFormat → String
  | text => "text"
  | json => "json"

namespace FieldValue

/-- The value in a line of text: plain text is quoted there. -/
def inLine : FieldValue → String
  | text s => Text.quoted s
  | v => v.plain

/-- The value in a JSON object. -/
def toJson : FieldValue → Json
  | text s | display s => .string s
  | integer n => .ofInt n
  | flag b => .bool b

end FieldValue

namespace Event

/-- An event as a line of text. -/
def line (e : Event) : String :=
  " ".intercalate (e.level.name :: e.message :: e.fields.map fun f => f.1 ++ "=" ++ f.2.inLine)

/-- An event as a JSON object. -/
def toJson (e : Event) : Json :=
  .object
    [("level", .string e.level.name),
     ("fields", .object (("message", .string e.message) :: e.fields.map fun f => (f.1, f.2.toJson)))]

end Event

end ConfigMigration

import ConfigMigration.Migration.Action
import ConfigMigration.Schema

/-!
# Steps

A step leads from one schema to another.  Its transform looks at the trees of both targets and says what to do; it
does not talk to a store itself.
-/

namespace ConfigMigration

/-- Why a transform gives up on a whole step. -/
inductive TransformError where
  /-- A failure of its own. -/
  | failed (message : String)
  /-- A snapshot does not hold a tree of its schema. -/
  | invalidSnapshot (target : String) (fault : Json.Fault)
  /-- The source holds nothing to migrate. -/
  | noEntities (target : String) (kind : String)
deriving DecidableEq, Repr

namespace TransformError

/-- The message of an error. -/
def message : TransformError → String
  | failed message => message
  | invalidSnapshot target fault =>
    "snapshot of target '" ++ target ++ "' does not match its schema: " ++ fault.text
  | noEntities target kind => "no " ++ kind ++ " entities found on target '" ++ target ++ "'"

/-- The messages of the causes of an error, the nearest one first. -/
def causes : TransformError → List String
  | invalidSnapshot _ fault => [fault.text]
  | _ => []

end TransformError

/-- Two schemas, one of which follows the other. -/
structure SchemaChange where
  /-- The schema that is left. -/
  source : Schema
  /-- The schema that is reached. -/
  destination : Schema
deriving DecidableEq, Inhabited, Repr

namespace SchemaChange

/-- The text of a change of schema. -/
def text (c : SchemaChange) : String := c.source.text ++ " -> " ++ c.destination.text

/-- The versions of the two schemas. -/
def versions (c : SchemaChange) : Version × Version := (c.source.version, c.destination.version)

end SchemaChange

/-- The names of the targets of a migration. -/
structure Targets where
  /-- The target that is migrated. -/
  source : String
  /-- The target that the result is written to. -/
  destination : String
deriving DecidableEq, Inhabited, Repr

/-- What a step does with the trees of the two targets. -/
structure Transform where
  /-- A description. -/
  description : String
  /-- The actions for two snapshots, in the order in which they are to be carried out. -/
  run : SchemaChange → Targets → Snapshot → Snapshot → Logged (Except TransformError (List Action))

instance : Inhabited Transform := ⟨"", fun _ _ _ _ => pure (.ok [])⟩

/-- A change of schema and the transform that carries it out. -/
structure Step extends SchemaChange where
  /-- The transform. -/
  transform : Transform
deriving Inhabited

namespace Step

/-- The version that the step leaves. -/
def fromVersion (s : Step) : Version := s.source.version

/-- The version that the step reaches. -/
def toVersion (s : Step) : Version := s.destination.version

/-- Whether the step leads from one version to another. -/
def Connects (s : Step) (start goal : Version) : Prop := s.fromVersion = start ∧ s.toVersion = goal

instance (s : Step) (start goal : Version) : Decidable (s.Connects start goal) :=
  inferInstanceAs (Decidable (_ ∧ _))

/-- The text of a step. -/
def text (s : Step) : String := s.toSchemaChange.text

/-- The summary of a step. -/
def summary (s : Step) : String :=
  "MigrationStep \x7b from: " ++ Text.quoted s.source.text ++ ", to: " ++ Text.quoted s.destination.text ++
    ", transform: " ++ Text.quoted s.transform.description ++ " \x7d"

/-- What the step does with two snapshots. -/
def apply (s : Step) (targets : Targets) (source destination : Snapshot) :
    Logged (Except TransformError (List Action)) :=
  s.transform.run s.toSchemaChange targets source destination

end Step

end ConfigMigration

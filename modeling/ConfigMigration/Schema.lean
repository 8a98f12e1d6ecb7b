import ConfigMigration.Json.Decoder

/-!
# Schemas

A tree follows a schema, which is a model at a version.  Versions are labels: they are compared for equality only,
and nothing but the list of steps says which version follows which.
-/

namespace ConfigMigration

open Json (Decoder)

/-- The label of a version of a schema. -/
structure Version where
  /-- The text of the label. -/
  label : String
deriving DecidableEq, Inhabited, Repr

/-- A model at a version, with the modules that belong to it. -/
structure Schema where
  /-- The name of the model; it may be empty. -/
  model : String
  /-- The version. -/
  version : Version
  /-- The modules of the model. -/
  modules : List String := []
deriving DecidableEq, Inhabited, Repr

namespace Schema

/-- A version without the name of a model. -/
def bare (label : String) : Schema := { model := "", version := ⟨label⟩ }

/-- The text of a schema: the version, behind the name of the model if there is one. -/
def text (s : Schema) : String :=
  if s.model.isEmpty then s.version.label else s.model ++ "@" ++ s.version.label

/-- The schema as a JSON value; an empty list of modules is left out. -/
def toJson (s : Schema) : Json :=
  .object ([("model", .string s.model), ("version", .string s.version.label)] ++
    if s.modules.isEmpty then [] else [("modules", .array (s.modules.map .string))])

/-- The members of a schema that have been read. -/
structure Draft where
  /-- The model. -/
  model : Option String := none
  /-- The version. -/
  version : Option String := none
  /-- The modules. -/
  modules : Option (List String) := none

/-- Reads a schema. -/
def decoder : Decoder Schema :=
  .record
    [.of "model" Draft.model (fun d v => { d with model := some v }) .string false,
     .of "version" Draft.version (fun d v => { d with version := some v }) .string false,
     .of "modules" Draft.modules (fun d v => { d with modules := some v }) (.list .string) true]
    {}
    fun d => do some { model := ← d.model, version := ⟨← d.version⟩, modules := d.modules.getD [] }

end Schema

end ConfigMigration

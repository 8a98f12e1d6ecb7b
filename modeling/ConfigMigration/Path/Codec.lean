import ConfigMigration.Json.Decoder
import ConfigMigration.Path.Basic

/-!
# Paths in JSON

A path is written as an object with its target and its elements, an element as an object with its name and its
keys.  An absent target and empty keys are left out, and may be missing when a path is read.
-/

namespace ConfigMigration

open Json (Decoder)

namespace PathElem

/-- The element as a JSON value. -/
def toJson (e : PathElem) : Json :=
  .object (("name", .string e.name) ::
    if e.keys.isEmpty then [] else [("key", .object (e.keys.entries.map fun k => (k.1, .string k.2)))])

/-- The members of an element that have been read. -/
structure Draft where
  /-- The name. -/
  name : Option String := none
  /-- The keys. -/
  keys : Option (List (String × String)) := none

/-- Reads an element. -/
def decoder : Decoder PathElem :=
  .record
    [.of "name" Draft.name (fun d v => { d with name := some v }) .string false,
     .of "key" Draft.keys (fun d v => { d with keys := some v }) (.dictionary .string) true]
    {}
    fun d => d.name.map fun name => { name, keys := .ofList (d.keys.getD []) }

end PathElem

namespace Path

/-- The path as a JSON value. -/
def toJson (p : Path) : Json :=
  .object ((p.target.map fun t => ("target", Json.string t)).toList ++
    [("elem", .array (p.elems.map PathElem.toJson))])

/-- The members of a path that have been read. -/
structure Draft where
  /-- The target. -/
  target : Option (Option String) := none
  /-- The elements. -/
  elems : Option (List PathElem) := none

/-- Reads a path. -/
def decoder : Decoder Path :=
  .record
    [.of "target" Draft.target (fun d v => { d with target := some v }) (.optional .string) true,
     .of "elem" Draft.elems (fun d v => { d with elems := some v }) (.list PathElem.decoder) true]
    {}
    fun d => some { target := d.target.join, elems := d.elems.getD [] }

end Path

end ConfigMigration

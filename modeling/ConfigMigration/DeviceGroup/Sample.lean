import ConfigMigration.Store.Memory

/-!
# Sample trees

A tree of version 2.0.0 with three device groups: one whose identifier has to be converted and whose two blocks
follow one another, one with a valid identifier and a gap between its blocks, and one without an identifier.
-/

namespace ConfigMigration.DeviceGroup

/-- The tree of a block; a block of one number has no last number. -/
def sampleBlock (label : String) (first : Int) (last : Option Int) : Json :=
  .object ([("imsi-id", .string label), ("imsi-range-from", .ofInt first)] ++
    (last.map fun n => ("imsi-range-to", Json.ofInt n)).toList)

/-- The sample tree. -/
def sampleTree : Json :=
  .object [("device-group", .array [
    .object [("description", .string "Cameras in New York"), ("display-name", .string "Starbucks New York"),
      ("id", .string "starbucks_NewYork"),
      ("imsis", .array [sampleBlock "front" 100 (some 199), sampleBlock "back" 200 (some 299)]),
      ("site", .string "starbucks-newyork")],
    .object [("id", .string "acme-chicago"),
      ("imsis", .array [sampleBlock "robots" 0 (some 9), sampleBlock "sensors" 20 none]),
      ("site", .string "acme-chicago")],
    .object [("display-name", .string "orphan")]])]

/-- The store with the sample tree on target `v2` and an empty tree on target `v21`. -/
def sampleStore : MemoryStore :=
  (MemoryStore.empty.insertTree "v2" sampleTree).insertTree "v21" .emptyObject

end ConfigMigration.DeviceGroup

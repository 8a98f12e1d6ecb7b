import ConfigMigration.Interval
import ConfigMigration.Json.Decoder
import ConfigMigration.Path.Basic

/-!
# Device groups

The part of a tree of the aether model that the shipped step is about: groups of devices, each with the blocks of
subscriber numbers (IMSIs) that belong to it.
-/

namespace ConfigMigration

open Json (Decoder)

/-- A block of subscriber numbers. -/
structure ImsiBlock where
  /-- The label. -/
  id : Option String := none
  /-- The first number. -/
  first : Option UInt64 := none
  /-- The last number. -/
  last : Option UInt64 := none
deriving DecidableEq, Repr

namespace ImsiBlock

/-- The interval of a complete block: it has a label and a first number, and its last number, where it has one, is
not below the first.  A block without a last number holds one number. -/
def interval? (b : ImsiBlock) : Option Interval := do
  let label ← b.id
  let first ← b.first
  let last := b.last.getD first
  if first ≤ last then some ⟨first, last, label⟩ else none

/-- The members of a block that have been read. -/
structure Draft where
  /-- The label. -/
  id : Option (Option String) := none
  /-- The first number. -/
  first : Option (Option UInt64) := none
  /-- The last number. -/
  last : Option (Option UInt64) := none

/-- Reads a block. -/
def decoder : Decoder ImsiBlock :=
  .record
    [.of "imsi-id" Draft.id (fun d v => { d with id := some v }) (.optional .string) false,
     .of "imsi-range-from" Draft.first (fun d v => { d with first := some v }) (.optional .uint64) false,
     .of "imsi-range-to" Draft.last (fun d v => { d with last := some v }) (.optional .uint64) false]
    {}
    fun d => some { id := d.id.join, first := d.first.join, last := d.last.join }

end ImsiBlock

/-- A group of devices. -/
structure DeviceGroup where
  /-- The identifier. -/
  id : Option String := none
  /-- The name that is shown. -/
  displayName : Option String := none
  /-- The description. -/
  description : Option String := none
  /-- The site. -/
  site : Option String := none
  /-- The blocks of subscriber numbers. -/
  imsis : List ImsiBlock := []
deriving DecidableEq, Repr

namespace DeviceGroup

/-- The members of a group that have been read. -/
structure Draft where
  /-- The identifier. -/
  id : Option (Option String) := none
  /-- The name that is shown. -/
  displayName : Option (Option String) := none
  /-- The description. -/
  description : Option (Option String) := none
  /-- The site. -/
  site : Option (Option String) := none
  /-- The blocks of subscriber numbers. -/
  imsis : Option (List ImsiBlock) := none

/-- Reads a group. -/
def decoder : Decoder DeviceGroup :=
  .record
    [.of "id" Draft.id (fun d v => { d with id := some v }) (.optional .string) false,
     .of "display-name" Draft.displayName (fun d v => { d with displayName := some v }) (.optional .string) false,
     .of "description" Draft.description (fun d v => { d with description := some v }) (.optional .string) false,
     .of "site" Draft.site (fun d v => { d with site := some v }) (.optional .string) false,
     .of "imsis" Draft.imsis (fun d v => { d with imsis := some v }) (.list ImsiBlock.decoder) true]
    {}
    fun d => some
      { id := d.id.join, displayName := d.displayName.join, description := d.description.join, site := d.site.join,
        imsis := d.imsis.getD [] }

/-- The name of the list of groups, and of one group in a path. -/
def entity : String := "device-group"

/-- The members of a tree that have been read. -/
structure TreeDraft where
  /-- The groups. -/
  groups : Option (List DeviceGroup) := none

/-- Reads the groups of a tree. -/
def treeDecoder : Decoder (List DeviceGroup) :=
  .record
    [.of entity TreeDraft.groups (fun d v => { d with groups := some v }) (.list decoder) true]
    {}
    fun d => some (d.groups.getD [])

/-- The path of the group with an identifier. -/
def path (id : String) : Path := (Path.root.push entity).pushKey "id" id

/-- The path of the block with a label, from its group on. -/
def blockPath (label : String) : Path := (Path.root.push "imsis").pushKey "imsi-id" label

end DeviceGroup

end ConfigMigration

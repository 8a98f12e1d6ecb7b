import ConfigMigration.DeviceGroup.Basic
import ConfigMigration.Identifier
import ConfigMigration.Migration.Step

/-!
# The step for device groups

From version 2.0.0 of the aether model to version 2.1.0.  The newer version wants identifiers for groups, and each
run of subscriber numbers in one block.  Every group of the source is written under its identifier on the
destination, with blocks that follow one another folded into one, and removed from the source.  Groups that cannot
be migrated are left where they are.
-/

namespace ConfigMigration.DeviceGroup

/-- A report of this step. -/
def report (level : Level) (message : String) (fields : List (String × FieldValue)) : Logged Unit :=
  .log { level, component := .deviceGroup, message, fields }

/-- The updates for a group, from its path on: the texts that it has, and the ends of its merged blocks. -/
def updates (g : DeviceGroup) (merged : List Interval) : List Update :=
  (Update.ofOption? (Path.root.push "display-name") (g.displayName.map .string)).toList ++
    (Update.ofOption? (Path.root.push "description") (g.description.map .string)).toList ++
    (Update.ofOption? (Path.root.push "site") (g.site.map .string)).toList ++
    merged.flatMap fun i =>
      [⟨(blockPath i.label).push "imsi-range-from", .uint64 i.first⟩,
       ⟨(blockPath i.label).push "imsi-range-to", .uint64 i.last⟩]

/-- The deletes for a group.  A group that stays where it is loses the blocks that are part of another one now; any
other group is removed as a whole. -/
def deletes (oldId newId : String) (inPlace : Bool) (m : Interval.Merge) : List Path :=
  if inPlace ∧ newId = oldId then
    (m.superseded.filter fun label => !m.merged.any (·.label = label)).map fun label =>
      (path oldId).join (blockPath label)
  else [path oldId]

/-- The action for a group that gets an identifier. -/
def action (g : DeviceGroup) (oldId newId : String) (inPlace : Bool) : Action :=
  let m := Interval.merge (g.imsis.filterMap ImsiBlock.interval?)
  { updateBase := some (path newId)
    updates := g.updates m.merged
    deletes := deletes oldId newId inPlace m }

/-- Reports the blocks that are not complete. -/
def reportBlocks (oldId : String) : List ImsiBlock → Logged Unit
  | [] => pure ()
  | b :: blocks => do
    if b.interval?.isNone then
      report .warn "incomplete imsi block, skipping" [("group", .text oldId), ("imsi_id", .optional b.id)]
    reportBlocks oldId blocks

/-- Reports the blocks of a group that were folded into one. -/
def reportMerge (newId : String) (intervals : List Interval) : Logged Unit := do
  let m := Interval.merge intervals
  if m.hasMerges then
    report .info "imsi blocks consolidated"
      [("group", .display newId), ("merged", .count (m.changed intervals).length),
       ("superseded", .list m.superseded)]

/-- The action for a group, if it can be migrated. -/
def migrate? (g : DeviceGroup) (inPlace : Bool) (existing : List DeviceGroup) : Logged (Option Action) := do
  match g.id with
  | none =>
    report .warn "device group without id, skipping" [("display_name", .text (g.displayName.getD ""))]
    return none
  | some oldId =>
    match ← Identifier.normalizeLogged oldId with
    | .error e =>
      report .warn "device group id cannot be normalized, skipping"
        [("id", .text oldId), ("error", .display e.message)]
      return none
    | .ok newId =>
      if existing.any (·.id = some newId) then
        report .debug "device group already on destination, overwriting" [("id", .display newId)]
      reportBlocks oldId g.imsis
      reportMerge newId (g.imsis.filterMap ImsiBlock.interval?)
      return some (g.action oldId newId inPlace)

/-- The actions for groups, in their order. -/
def migrateAll (inPlace : Bool) (existing : List DeviceGroup) : List DeviceGroup → Logged (List Action)
  | [] => pure []
  | g :: groups => do
    let action ← g.migrate? inPlace existing
    return action.toList ++ (← migrateAll inPlace existing groups)

/-- The groups in the tree of a snapshot. -/
def ofSnapshot (s : Snapshot) : Except TransformError (List DeviceGroup) :=
  (treeDecoder.decode s.text).mapError (.invalidSnapshot s.target)

/-- The actions for the groups of a source. -/
def run (change : SchemaChange) (targets : Targets) (source destination : Snapshot) :
    Logged (Except TransformError (List Action)) :=
  match ofSnapshot source, ofSnapshot destination with
  | .error e, _ => pure (.error e)
  | .ok _, .error e => pure (.error e)
  | .ok [], .ok _ => pure (.error (.noEntities targets.source entity))
  | .ok groups, .ok existing => do
    let actions ← migrateAll (targets.source = targets.destination) existing groups
    report .info "device groups migrated"
      [("step", .display change.text), ("groups", .count groups.length), ("migrated", .count actions.length)]
    return .ok actions

/-- The name of the model. -/
def model : String := "aether"

/-- The schema of a version of the model. -/
def schema (version : String) : Schema :=
  { model, version := ⟨version⟩, modules := ["onf-device-group", "onf-site"] }

/-- The transform for device groups. -/
def transform : Transform := ⟨"aether device-group 2.0.0 -> 2.1.0", run⟩

/-- The step for device groups. -/
def step : Step := { source := schema "2.0.0", destination := schema "2.1.0", transform }

/-- The steps that are shipped, in the order of the versions. -/
def shippedSteps : List Step := [step]

end ConfigMigration.DeviceGroup

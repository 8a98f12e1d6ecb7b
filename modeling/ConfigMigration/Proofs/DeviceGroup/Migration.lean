import ConfigMigration.Proofs.DeviceGroup.Blocks
import ConfigMigration.Proofs.Identifier
import ConfigMigration.Proofs.Store.Replay

/-!
# The shipped migration

A migration from version 2.0.0 to version 2.1.0 with the shipped steps reads both trees and then sends the requests
for the groups of the source, one group after the other (`shippedMigration_of_ne_nil`).  A source without groups is
an error, and nothing is changed (`shippedMigration_of_nil`).
-/

namespace ConfigMigration.DeviceGroup

open Migrator

/-- The migration from version 2.0.0 to version 2.1.0 with the shipped steps. -/
def shippedMigration (targets : Targets) : Run MemoryStore Report :=
  migrate shippedSteps targets ⟨"2.0.0"⟩ ⟨"2.1.0"⟩

/-- The identifier that a group gets, if its name can be normalized. -/
def newId? (g : DeviceGroup) : Option String := g.id.bind fun id => (Identifier.normalize id).toOption

/-- Whether a group has an identifier with a letter. -/
def isConvertible (g : DeviceGroup) : Bool := g.id.any fun id => decide (Identifier.HasLetter id)

/-- The merge of the complete blocks of a group. -/
def merge (g : DeviceGroup) : Interval.Merge := Interval.merge (ImsiBlock.intervals g.imsis)

/-- The action for a group, if it gets an identifier. -/
def action? (inPlace : Bool) (g : DeviceGroup) : Option Action := do
  let oldId ← g.id
  let newId ← (Identifier.normalize oldId).toOption
  return g.action oldId newId inPlace

/-- The requests for a group. -/
def requestsOf (targets : Targets) (g : DeviceGroup) : List SetRequest :=
  match g.action? (targets.source = targets.destination) with
  | none => []
  | some action => action.requests targets.source targets.destination

/-- Whether a complete block of a group covers a number. -/
def CoversNumber (g : DeviceGroup) (n : UInt64) : Prop := ∃ i ∈ ImsiBlock.intervals g.imsis, i.Covers n

/-- A tree whose objects are dictionaries, with groups and blocks written as objects, that is read as groups. -/
structure IsWritten (tree : Json) (gs : List DeviceGroup) : Prop where
  ordered : tree.isOrdered = true
  plain : isPlain tree = true
  decoded : treeDecoder.decode tree.render = .ok gs

/-- The entries of a tree whose identifier has no letter, if they have one. -/
def unconvertible (tree : Json) : List Json := (entries tree).filter fun entry => !(ofJson entry).isConvertible

/-- Whether the first entry with an identifier, in the tree of a target, has a property. -/
def EntryHolds (s : MemoryStore) (target id : String) (P : DeviceGroup → Prop) : Prop :=
  ∃ tree gs g, s.tree? target = some tree ∧ treeDecoder.decode tree.render = .ok gs ∧
    gs.find? (fun g => g.id = some id) = some g ∧ P g

/-! ### Trees of groups -/

theorem IsWritten.isTree {tree : Json} {gs : List DeviceGroup} (h : IsWritten tree gs) : IsTree tree :=
  ((decode_render_eq_ok_iff h.ordered h.plain).mp h.decoded).1

theorem IsWritten.eq_groups {tree : Json} {gs : List DeviceGroup} (h : IsWritten tree gs) : gs = groups tree :=
  ((decode_render_eq_ok_iff h.ordered h.plain).mp h.decoded).2

theorem isWritten_groups {tree : Json} (ho : tree.isOrdered = true) (hp : isPlain tree = true) (h : IsTree tree) :
    IsWritten tree (groups tree) := ⟨ho, hp, decode_render_of_isTree h⟩

theorem find?_groups (tree : Json) (id : String) :
    (groups tree).find? (fun g => g.id = some id) = ((entries tree).find? (Tree.shows "id" id)).map ofJson :=
  List.find?_map

theorem entryHolds_of_find? {s : MemoryStore} {target id : String} {tree entry : Json}
    (htree : s.tree? target = some tree) (ht : IsTree tree)
    (he : (entries tree).find? (Tree.shows "id" id) = some entry) {P : DeviceGroup → Prop} (hp : P (ofJson entry)) :
    EntryHolds s target id P :=
  ⟨tree, groups tree, ofJson entry, htree, decode_render_of_isTree ht, by rw [find?_groups, he]; rfl, hp⟩

/-- The merged intervals of a group cover the numbers that its complete blocks cover. -/
theorem coversNumber_iff (g : DeviceGroup) (n : UInt64) : g.CoversNumber n ↔ ∃ i ∈ g.merge.merged, i.Covers n :=
  (Interval.exists_covers_merge_iff (fun _ hi => ImsiBlock.isComplete_of_mem_intervals hi) n).symm

/-! ### Identifiers -/

theorem path_injective : Function.Injective path := by
  intro id id' h
  have hkeys : (path id).elems.map (fun e => e.keys.get? "id") = (path id').elems.map fun e => e.keys.get? "id" := by
    rw [h]
  simpa [path, Path.push, Path.pushKey, Path.root] using hkeys

theorem newId?_eq_some_iff {g : DeviceGroup} {newId : String} :
    g.newId? = some newId ↔ ∃ oldId, g.id = some oldId ∧ Identifier.normalize oldId = .ok newId := by
  unfold newId?
  rw [Option.bind_eq_some_iff]
  refine exists_congr fun oldId => and_congr_right fun _ => ?_
  cases Identifier.normalize oldId <;> simp [Except.toOption]

/-- A group gets an identifier if it has one with a letter. -/
theorem isConvertible_iff {g : DeviceGroup} : g.isConvertible = true ↔ ∃ newId, g.newId? = some newId := by
  have hletter : ∀ id, Identifier.HasLetter id ↔ ∃ newId, Identifier.normalize id = .ok newId :=
    fun _ => Identifier.normalize_isOk_iff.symm
  unfold isConvertible
  cases hid : g.id with
  | none => simp [newId?, hid]
  | some oldId => simp [newId?_eq_some_iff, hid, hletter]

theorem action?_of_newId? {g : DeviceGroup} {oldId newId : String} (hid : g.id = some oldId)
    (h : g.newId? = some newId) (inPlace : Bool) : g.action? inPlace = some (g.action oldId newId inPlace) := by
  rw [newId?, hid, Option.bind_some] at h
  simp [action?, hid, h]

theorem action?_of_newId?_eq_none {g : DeviceGroup} (h : g.newId? = none) (inPlace : Bool) :
    g.action? inPlace = none := by
  unfold newId? at h
  unfold action?
  cases hid : g.id with
  | none => rfl
  | some oldId =>
    rw [hid, Option.bind_some] at h
    simp [h]

/-! ### The actions -/

theorem ofSnapshot_ofJson {target : String} {tree : Json} {gs : List DeviceGroup}
    (h : treeDecoder.decode tree.render = .ok gs) : ofSnapshot (.ofJson target tree) = .ok gs := by
  change (treeDecoder.decode tree.render).mapError _ = _
  rw [h]
  rfl

theorem value_migrate? (g : DeviceGroup) (inPlace : Bool) (existing : List DeviceGroup) :
    (g.migrate? inPlace existing).value = g.action? inPlace := by
  unfold migrate? action?
  cases g.id with
  | none => rfl
  | some oldId =>
    simp only [Logged.value_bind, Identifier.value_normalizeLogged, Option.bind_eq_bind, Option.bind_some]
    cases Identifier.normalize oldId with
    | error e => rfl
    | ok newId =>
      simp only
      split <;> rfl

theorem value_migrateAll (inPlace : Bool) (existing gs : List DeviceGroup) :
    (migrateAll inPlace existing gs).value = gs.filterMap (action? inPlace) := by
  induction gs with
  | nil => rfl
  | cons g gs ih =>
    rw [migrateAll, Logged.value_bind, Logged.value_bind, Logged.value_pure, value_migrate?, ih]
    cases hg : g.action? inPlace with
    | none => rw [List.filterMap_cons_none hg]; rfl
    | some action => rw [List.filterMap_cons_some hg]; rfl

/-- What the transform makes of the groups that it reads. -/
theorem value_run {source destination : Snapshot} {gs existing : List DeviceGroup} (hgs : ofSnapshot source = .ok gs)
    (hexisting : ofSnapshot destination = .ok existing) (change : SchemaChange) (targets : Targets) :
    (run change targets source destination).value =
      if gs = [] then .error (.noEntities targets.source entity)
      else .ok (gs.filterMap (action? (targets.source = targets.destination))) := by
  unfold run
  simp only [hgs, hexisting]
  cases gs with
  | nil => rfl
  | cons g gs => simp only [Logged.value_bind, value_migrateAll, Logged.value_pure, List.cons_ne_nil, if_false]

theorem flatMap_requests (targets : Targets) (gs : List DeviceGroup) :
    (gs.filterMap (action? (targets.source = targets.destination))).flatMap
      (fun a => a.requests targets.source targets.destination) = gs.flatMap (requestsOf targets) := by
  induction gs with
  | nil => rfl
  | cons g gs ih =>
    rw [List.flatMap_cons, ← ih, requestsOf]
    cases hg : g.action? (targets.source = targets.destination) with
    | none => rw [List.filterMap_cons_none hg, List.nil_append]
    | some action => rw [List.filterMap_cons_some hg, List.flatMap_cons]

/-! ### The run -/

theorem resolve_shippedSteps :
    Chain.resolve shippedSteps ⟨"2.0.0"⟩ ⟨"2.1.0"⟩ = .ok [⟨0, DeviceGroup.step⟩] := by
  rfl

/-- The store behind the two Gets of a step. -/
def fetched (targets : Targets) (s : MemoryStore) : MemoryStore :=
  { s with gets := s.gets ++ [targets.source] ++ [targets.destination] }

private theorem fetch_eq {s : MemoryStore} {target : String} {tree : Json} (hs : target ∉ s.failingGets)
    (ht : s.tree? target = some tree) :
    (fetch target s).result = .ok (.ofJson target tree) ∧
      (fetch target s).state = { s with gets := s.gets ++ [target] } := by
  refine ⟨?_, rfl⟩
  change (MemoryStore.get s target .root).result.mapError _ = _
  unfold MemoryStore.get
  simp only [if_neg hs, ht, Path.root, Tree.find?]
  rfl

/-- Both trees of a migration, with the groups that they hold. -/
structure Reads (s : MemoryStore) (targets : Targets) (gs existing : List DeviceGroup) : Prop where
  failingSource : targets.source ∉ s.failingGets
  failingDestination : targets.destination ∉ s.failingGets
  source : ∃ tree, s.tree? targets.source = some tree ∧ treeDecoder.decode tree.render = .ok gs
  destination : ∃ tree, s.tree? targets.destination = some tree ∧ treeDecoder.decode tree.render = .ok existing

theorem reads_of_isWritten {s : MemoryStore} {targets : Targets} {tree tree' : Json} {gs existing : List DeviceGroup}
    (hgets : s.failingGets = []) (hs : s.tree? targets.source = some tree) (hw : IsWritten tree gs)
    (hd : s.tree? targets.destination = some tree') (hw' : IsWritten tree' existing) : Reads s targets gs existing :=
  ⟨by simp [hgets], by simp [hgets], ⟨tree, hs, hw.decoded⟩, ⟨tree', hd, hw'.decoded⟩⟩

/-- A step whose targets can both be read ends behind the second reading, with what its transform says. -/
private theorem runStep_of_fetch {s : MemoryStore} {targets : Targets} {source destination : Snapshot}
    (hsource : (fetch targets.source s).result = .ok source)
    (hdestination : (fetch targets.destination (fetch targets.source s).state).result = .ok destination)
    (r : Registered) :
    (runStep r targets s).result = (r.step.apply targets source destination).value.mapError
        (.transform r.step.fromVersion r.step.toVersion) ∧
      (runStep r targets s).state = (fetch targets.destination (fetch targets.source s).state).state := by
  unfold runStep
  rw [Run.result_log_bind, Run.state_log_bind, Run.bind_apply_of_ok hsource, Run.bind_apply_of_ok hdestination,
    Run.bind_apply_of_ok rfl, Run.bind_apply_of_ok rfl]
  simp only [Run.note, Run.lift]
  cases (r.step.apply targets source destination).value with
  | error e => exact ⟨rfl, rfl⟩
  | ok actions => exact ⟨rfl, rfl⟩

private theorem runStep_of_reads {s : MemoryStore} {targets : Targets} {gs existing : List DeviceGroup}
    (h : Reads s targets gs existing) (position : Nat) :
    (runStep ⟨position, DeviceGroup.step⟩ targets s).result =
        (if gs = [] then .error (.transform ⟨"2.0.0"⟩ ⟨"2.1.0"⟩ (.noEntities targets.source entity))
        else .ok (gs.filterMap (action? (targets.source = targets.destination)))) ∧
      (runStep ⟨position, DeviceGroup.step⟩ targets s).state = fetched targets s := by
  obtain ⟨hfs, hfd, ⟨tree, htree, hgs⟩, ⟨tree', htree', hexisting⟩⟩ := h
  obtain ⟨hr, hs⟩ := fetch_eq hfs htree
  obtain ⟨hr', hs'⟩ := fetch_eq (s := { s with gets := s.gets ++ [targets.source] }) hfd htree'
  rw [← hs] at hr' hs'
  obtain ⟨hresult, hstate⟩ := runStep_of_fetch hr hr' ⟨position, DeviceGroup.step⟩
  have happly :
      (DeviceGroup.step.apply targets (.ofJson targets.source tree) (.ofJson targets.destination tree')).value =
      if gs = [] then .error (.noEntities targets.source entity)
      else .ok (gs.filterMap (action? (targets.source = targets.destination))) :=
    value_run (ofSnapshot_ofJson hgs) (ofSnapshot_ofJson hexisting) _ _
  refine ⟨?_, hstate.trans hs'⟩
  rw [hresult, happly]
  by_cases hnil : gs = []
  · rw [if_pos hnil, if_pos hnil]
    rfl
  · rw [if_neg hnil, if_neg hnil]
    rfl

/-- Behind a run that reads a source without groups, every tree is as before. -/
theorem shippedMigration_of_nil {s : MemoryStore} {targets : Targets} {existing : List DeviceGroup}
    (h : Reads s targets [] existing) :
    (shippedMigration targets s).result =
        .error (.transform ⟨"2.0.0"⟩ ⟨"2.1.0"⟩ (.noEntities targets.source entity)) ∧
      (shippedMigration targets s).state = fetched targets s := by
  obtain ⟨hresult, hstate⟩ := runStep_of_reads h 0
  rw [if_pos rfl] at hresult
  unfold shippedMigration migrate
  rw [resolve_shippedSteps]
  simp only [runChain]
  rw [Run.result_log_bind, Run.state_log_bind]
  constructor
  · exact Run.result_bind_of_error (Run.result_bind_of_error hresult _) _
  · rw [Run.state_bind_of_error (Run.result_bind_of_error hresult _), Run.state_bind_of_error hresult, hstate]

/-- A run that reads groups sends the requests for them, and succeeds if they are acknowledged. -/
theorem shippedMigration_of_ne_nil {s : MemoryStore} {targets : Targets} {gs existing : List DeviceGroup}
    (h : Reads s targets gs existing) (hne : gs ≠ []) :
    (shippedMigration targets s).result.isOk =
        (sendAll (gs.flatMap (requestsOf targets)) (fetched targets s)).result.isOk ∧
      (shippedMigration targets s).state =
        (sendAll (gs.flatMap (requestsOf targets)) (fetched targets s)).state := by
  obtain ⟨hresult, hstate⟩ := runStep_of_reads h 0
  rw [if_neg hne] at hresult
  unfold shippedMigration migrate
  rw [resolve_shippedSteps, ← flatMap_requests]
  simp only [runChain, applyAll_eq, bind_assoc, pure_bind]
  rw [Run.result_log_bind, Run.state_log_bind, Run.result_bind_of_ok hresult, Run.state_bind_of_ok hresult, hstate]
  exact Run.bind_of_total (fun _ _ => ⟨_, _, rfl⟩) _ _

end ConfigMigration.DeviceGroup

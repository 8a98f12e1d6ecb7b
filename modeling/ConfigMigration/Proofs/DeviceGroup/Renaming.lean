import ConfigMigration.DeviceGroup.Sample
import ConfigMigration.Proofs.DeviceGroup.Migration

/-!
# Groups under their new identifiers

The step writes each group under its normalized identifier.  Normalization is not injective, and nobody compares the
identifiers of different groups: groups are written apart from each other if and only if their normalized identifiers
differ (`updateBases_of_run`).  Identifiers that are in normal form already stay apart, and names such as `lab_1` and
`lab1` fall together (`lab_names_fall_together`).
-/

namespace ConfigMigration.DeviceGroup

/-- Where the transform returns actions, they are those for the groups of the source. -/
theorem exists_groups_of_run {change : SchemaChange} {targets : Targets} {source destination : Snapshot}
    {actions : List Action} (h : (run change targets source destination).value = .ok actions) :
    ∃ gs, ofSnapshot source = .ok gs ∧
      actions = gs.filterMap (action? (targets.source = targets.destination)) := by
  cases hgs : ofSnapshot source with
  | error e =>
    rw [run, hgs] at h
    cases h
  | ok gs =>
    cases hexisting : ofSnapshot destination with
    | error e =>
      rw [run, hgs, hexisting] at h
      cases h
    | ok existing =>
      rw [value_run hgs hexisting] at h
      by_cases hnil : gs = []
      · rw [if_pos hnil] at h
        cases h
      · rw [if_neg hnil] at h
        exact ⟨gs, rfl, (Except.ok.inj h).symm⟩

/-- An action is written under the path of the new identifier of its group. -/
theorem map_updateBase (inPlace : Bool) (gs : List DeviceGroup) :
    (gs.filterMap (action? inPlace)).map Action.updateBase =
      (gs.filterMap newId?).map fun newId => some (path newId) := by
  induction gs with
  | nil => rfl
  | cons g gs ih =>
    cases hnew : g.newId? with
    | none => rw [List.filterMap_cons_none (action?_of_newId?_eq_none hnew _), List.filterMap_cons_none hnew, ih]
    | some newId =>
      obtain ⟨oldId, hid, -⟩ := newId?_eq_some_iff.mp hnew
      rw [List.filterMap_cons_some (action?_of_newId? hid hnew _), List.filterMap_cons_some hnew, List.map_cons,
        List.map_cons, ih]
      rfl

/-- Distinct identifiers that are in normal form stay distinct. -/
theorem nodup_newIds {gs : List DeviceGroup} (hids : (gs.filterMap DeviceGroup.id).Nodup)
    (hvalid : ∀ g ∈ gs, ∀ id, g.id = some id → Identifier.HasLetter id → Identifier.isValid id = true) :
    (gs.filterMap newId?).Nodup := by
  have hkept : ∀ g ∈ gs, ∀ newId, g.newId? = some newId → g.id = some newId := by
    intro g hg newId hnew
    obtain ⟨id, hid, hnormal⟩ := newId?_eq_some_iff.mp hnew
    have hid_valid := hvalid g hg id hid (Identifier.normalize_isOk_iff.mp ⟨newId, hnormal⟩)
    rw [Identifier.normalize_of_isValid hid_valid] at hnormal
    rw [hid, Except.ok.inj hnormal]
  unfold List.Nodup at hids ⊢
  rw [List.pairwise_filterMap] at hids ⊢
  refine hids.imp_of_mem ?_
  intro g g' hg hg' hne newId hnew newId' hnew'
  exact hne newId (hkept g hg newId hnew) newId' (hkept g' hg' newId' hnew')

/-- Under which paths the step writes the groups, and when no two of them are written under one path. -/
theorem updateBases_of_run {change : SchemaChange} {targets : Targets} {source destination : Snapshot}
    {actions : List Action} (h : (run change targets source destination).value = .ok actions) :
    ∃ gs, ofSnapshot source = .ok gs ∧
      actions.map Action.updateBase = (gs.filterMap newId?).map (fun newId => some (path newId)) ∧
      ((actions.map Action.updateBase).Nodup ↔ (gs.filterMap newId?).Nodup) ∧
      ((gs.filterMap DeviceGroup.id).Nodup →
        (∀ g ∈ gs, ∀ id, g.id = some id → Identifier.HasLetter id → Identifier.isValid id = true) →
        (actions.map Action.updateBase).Nodup) := by
  obtain ⟨gs, hgs, rfl⟩ := exists_groups_of_run h
  have hbases := map_updateBase (targets.source = targets.destination) gs
  have hnodup : ((gs.filterMap (action? (targets.source = targets.destination))).map Action.updateBase).Nodup ↔
      (gs.filterMap newId?).Nodup := by
    rw [hbases]
    exact List.nodup_map_iff fun _ _ heq => path_injective (Option.some.inj heq)
  exact ⟨gs, hgs, hbases, hnodup, fun hids hvalid => hnodup.mpr (nodup_newIds hids hvalid)⟩

private theorem ofSnapshot_of_isTree (target : String) {tree : Json} (h : IsTree tree) :
    ofSnapshot (.ofJson target tree) = .ok (groups tree) := ofSnapshot_ofJson (decode_render_of_isTree h)

/-- The groups of the sample tree are written apart from each other. -/
theorem sampleTree_updateBases :
    ∃ actions, (run step.toSchemaChange ⟨"v2", "v21"⟩ (.ofJson "v2" sampleTree) (.ofJson "v21" .emptyObject)).value =
      .ok actions ∧ (actions.map Action.updateBase).Nodup := by
  have hgs := ofSnapshot_of_isTree "v2" (by decide : IsTree sampleTree)
  have hvalue := value_run hgs (ofSnapshot_of_isTree "v21" (by decide : IsTree .emptyObject)) step.toSchemaChange
    ⟨"v2", "v21"⟩
  rw [if_neg (by decide)] at hvalue
  obtain ⟨gs, hgs', -, hnodup, -⟩ := updateBases_of_run hvalue
  rw [hgs] at hgs'
  refine ⟨_, hvalue, hnodup.mpr ?_⟩
  rw [← Except.ok.inj hgs']
  decide

/-! ### Names that fall together -/

/-- A tree with two groups whose names differ by a character that cannot stand in an identifier. -/
def labTree : Json :=
  .object [("device-group", .array [
    .object [("id", .string "lab_1"), ("site", .string "north")],
    .object [("id", .string "lab1"), ("site", .string "south")]])]

theorem lab_names_fall_together :
    ∃ gs actions, ofSnapshot (.ofJson "v2" labTree) = .ok gs ∧ (gs.map DeviceGroup.id).Nodup ∧
      (run step.toSchemaChange ⟨"v2", "v21"⟩ (.ofJson "v2" labTree) (.ofJson "v21" .emptyObject)).value =
        .ok actions ∧
      ¬(actions.map Action.updateBase).Nodup := by
  have hgs := ofSnapshot_of_isTree "v2" (by decide : IsTree labTree)
  have hvalue := value_run hgs (ofSnapshot_of_isTree "v21" (by decide : IsTree .emptyObject)) step.toSchemaChange
    ⟨"v2", "v21"⟩
  rw [if_neg (by decide)] at hvalue
  refine ⟨_, _, hgs, by decide, hvalue, ?_⟩
  rw [map_updateBase, List.nodup_map_iff fun _ _ heq => path_injective (Option.some.inj heq)]
  decide

end ConfigMigration.DeviceGroup

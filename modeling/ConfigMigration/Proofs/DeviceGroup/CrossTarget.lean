import ConfigMigration.DeviceGroup.Sample
import ConfigMigration.Proofs.DeviceGroup.Effects

/-!
# Migration between different targets

Between different targets, each group that gets an identifier becomes one new entry at the end of the destination,
and every entry with its old identifier leaves the source (`crossTarget_result`).  On the destination a run is a
sequence of keyed writes of which none meets an earlier one; on the source it is a sequence of filters.
-/

namespace ConfigMigration.DeviceGroup

open MemoryStore ConfigMigration.Tree

/-- Whether a group has a text or a complete block. -/
def HasData (g : DeviceGroup) : Prop :=
  g.displayName.isSome ∨ g.description.isSome ∨ g.site.isSome ∨ ImsiBlock.intervals g.imsis ≠ []

instance (g : DeviceGroup) : Decidable g.HasData := by
  unfold HasData
  infer_instance

/-- The block that is written for a merged interval. -/
def migratedBlock (i : Interval) : Json :=
  .object [("imsi-id", .string i.label), ("imsi-range-from", .ofInt i.first.toNat),
    ("imsi-range-to", .ofInt i.last.toNat)]

/-- The entry that is written for a group. -/
def migratedEntry (g : DeviceGroup) (newId : String) : Json :=
  .object ((g.description.map fun s => ("description", Json.string s)).toList ++
    (g.displayName.map fun s => ("display-name", Json.string s)).toList ++ [("id", .string newId)] ++
    (if g.merge.merged = [] then [] else [("imsis", .array (g.merge.merged.map migratedBlock))]) ++
    (g.site.map fun s => ("site", Json.string s)).toList)

/-- The groups that get an identifier, each with it. -/
def renamings (gs : List DeviceGroup) : List (DeviceGroup × String) :=
  gs.filterMap fun g => g.newId?.map fun newId => (g, newId)

/-! ### New entries -/

private theorem migratedBlock_eq (i : Interval) : writeBlock i (freshEntry "imsi-id" i.label) = migratedBlock i := rfl

private theorem shows_migratedBlock_of_ne {i j : Interval} (h : i.label ≠ j.label) :
    shows "imsi-id" j.label (writeBlock i (freshEntry "imsi-id" i.label)) = false := by
  have hshows : shows "imsi-id" i.label (writeBlock i (freshEntry "imsi-id" i.label)) = true := by
    rw [shows_iff, migratedBlock_eq]
    rfl
  exact shows_eq_false_of_ne h.symm hshows

private theorem itemsAt_writeTexts_freshEntry (g : DeviceGroup) (newId : String) :
    (g.writeTexts (freshEntry "id" newId)).itemsAt "imsis" = [] := by
  unfold writeTexts
  cases g.site <;> cases g.description <;> cases g.displayName <;> rfl

private theorem isObject_writeTexts_freshEntry (g : DeviceGroup) (newId : String) :
    (g.writeTexts (freshEntry "id" newId)).isObject = true := by
  unfold writeTexts
  cases g.site <;> cases g.description <;> cases g.displayName <;> rfl

/-- A group that is written where there is no entry yet. -/
theorem writeGroup_freshEntry {g : DeviceGroup} (hn : ((ImsiBlock.intervals g.imsis).map Interval.label).Nodup)
    (newId : String) : g.writeGroup g.merge.merged (freshEntry "id" newId) = g.migratedEntry newId := by
  have hlabels : g.merge.merged.Pairwise fun i j => i.label ≠ j.label :=
    List.pairwise_map.mp (Interval.nodup_labels_merged hn)
  rw [writeGroup_eq rfl, migratedEntry]
  by_cases hnil : g.merge.merged = []
  · rw [hnil, if_pos rfl]
    unfold writeBlocks writeTexts
    cases g.site <;> cases g.description <;> cases g.displayName <;> rfl
  · rw [writeBlocks_eq_setMember hnil (isObject_writeTexts_freshEntry g newId), itemsAt_writeTexts_freshEntry,
      foldl_upsert_eq_append (fun i _ block hb => absurd hb List.not_mem_nil)
        (hlabels.imp fun h => shows_migratedBlock_of_ne h),
      List.nil_append, if_neg hnil, List.map_congr_left fun i _ => migratedBlock_eq i]
    unfold writeTexts
    cases g.site <;> cases g.description <;> cases g.displayName <;> rfl

theorem HasData.updates_ne_nil {g : DeviceGroup} (h : g.HasData) : g.updates g.merge.merged ≠ [] := by
  intro hnil
  obtain ⟨hname, hdescription, hsite, hmerged⟩ := eq_nil_of_updates_eq_nil hnil
  rcases h with h | h | h | h
  · rw [hname] at h
    cases h
  · rw [hdescription] at h
    cases h
  · rw [hsite] at h
    cases h
  · obtain ⟨i, hi⟩ := List.exists_mem_of_ne_nil _ h
    have hcovers : g.CoversNumber i.first :=
      ⟨i, hi, UInt64.le_refl _, ImsiBlock.isComplete_of_mem_intervals hi⟩
    obtain ⟨j, hj, -⟩ := (coversNumber_iff g i.first).mp hcovers
    rw [hmerged] at hj
    cases hj

/-- A group with data is one that there is something to write for. -/
theorem hasData_iff {g : DeviceGroup} : g.HasData ↔ g.updates g.merge.merged ≠ [] := by
  refine ⟨HasData.updates_ne_nil, fun hne => ?_⟩
  by_contra hdata
  unfold HasData at hdata
  simp only [not_or, Bool.not_eq_true, Option.isSome_eq_false_iff, Option.isNone_iff_eq_none, not_not] at hdata
  obtain ⟨hname, hdescription, hsite, hintervals⟩ := hdata
  refine hne ?_
  unfold updates merge
  rw [hname, hdescription, hsite, hintervals]
  rfl

/-! ### One group -/

private theorem replay_requestsOf_destination {targets : Targets} (hne : targets.source ≠ targets.destination)
    {g : DeviceGroup} {newId : String} (hnew : g.newId? = some newId) (hdata : g.updates g.merge.merged ≠ [])
    {tree : Json} (ht : IsTree tree) :
    ∃ tree', replay targets.destination (requestsOf targets g) (some tree) = some tree' ∧ IsTree tree' ∧
      entries tree' = written g newId (entries tree) := by
  obtain ⟨oldId, hid⟩ := exists_id_of_newId? hnew
  obtain ⟨tree', happly, ht', hedits⟩ := applyTo_writeRequest targets newId hdata ht
  have hremove : ∀ r ∈ if (removeRequest targets g oldId newId).deletes = [] then []
      else [removeRequest targets g oldId newId], r.target ≠ targets.destination := by
    intro r hr
    split at hr
    · cases hr
    · rw [List.mem_singleton.mp hr]
      exact hne
  have hwrite : MemoryStore.step targets.destination (some tree) (writeRequest targets g newId) = some tree' :=
    step_of_applyTo happly
  refine ⟨tree', ?_, ht', hedits.items⟩
  rw [requestsOf_eq hid hnew, if_neg hdata, List.singleton_append, replay_cons, hwrite]
  exact replay_of_forall_ne hremove _

private theorem replay_requestsOf_source {targets : Targets} (hne : targets.source ≠ targets.destination)
    {g : DeviceGroup} {oldId newId : String} (hid : g.id = some oldId) (hnew : g.newId? = some newId) {tree : Json}
    (ht : IsTree tree) :
    ∃ tree', replay targets.source (requestsOf targets g) (some tree) = some tree' ∧ IsTree tree' ∧
      entries tree' = withoutId oldId (entries tree) := by
  obtain ⟨tree', happly, ht', hedits⟩ := applyTo_removeRequest targets g oldId newId ht
  have hwrite : ∀ r ∈ if g.updates g.merge.merged = [] then [] else [writeRequest targets g newId],
      r.target ≠ targets.source := by
    intro r hr
    split at hr
    · cases hr
    · rw [List.mem_singleton.mp hr]
      exact hne.symm
  have hsome : (removeRequest targets g oldId newId).deletes ≠ [] := by
    unfold removeRequest deletes
    rw [if_neg fun h => hne (of_decide_eq_true h.1)]
    exact List.cons_ne_nil _ _
  refine ⟨tree', ?_, ht', ?_⟩
  · rw [requestsOf_eq hid hnew, replay_append, replay_of_forall_ne hwrite, if_neg hsome, replay_cons]
    exact step_of_applyTo happly
  · unfold entries
    rw [hedits.items, removed, if_neg fun h => hne h.1]

/-! ### All groups -/

theorem renamings_cons_of_eq_none {g : DeviceGroup} (h : g.newId? = none) (gs : List DeviceGroup) :
    renamings (g :: gs) = renamings gs := by
  unfold renamings
  rw [List.filterMap_cons_none (by rw [h]; rfl)]

theorem renamings_cons_of_eq_some {g : DeviceGroup} {newId : String} (h : g.newId? = some newId)
    (gs : List DeviceGroup) : renamings (g :: gs) = (g, newId) :: renamings gs := by
  unfold renamings
  rw [List.filterMap_cons_some (by rw [h]; rfl)]

theorem map_snd_renamings (gs : List DeviceGroup) : (renamings gs).map Prod.snd = gs.filterMap newId? := by
  induction gs with
  | nil => rfl
  | cons g gs ih =>
    cases hnew : g.newId? with
    | none => rw [renamings_cons_of_eq_none hnew, List.filterMap_cons_none hnew, ih]
    | some newId => rw [renamings_cons_of_eq_some hnew, List.filterMap_cons_some hnew, List.map_cons, ih]

theorem mem_renamings {gs : List DeviceGroup} {g : DeviceGroup} {newId : String} (h : (g, newId) ∈ renamings gs) :
    g ∈ gs ∧ g.newId? = some newId := by
  obtain ⟨g', hg', heq⟩ := List.mem_filterMap.mp h
  obtain ⟨newId', hnew, hpair⟩ := Option.map_eq_some_iff.mp heq
  cases hpair
  exact ⟨hg', hnew⟩

/-- On the destination a run writes one group after the other. -/
private theorem entries_replay_destination {targets : Targets} (hne : targets.source ≠ targets.destination)
    {gs : List DeviceGroup} (hdata : ∀ g ∈ gs, g.isConvertible = true → g.HasData) {tree final : Json}
    (ht : IsTree tree)
    (hfinal : replay targets.destination (gs.flatMap (requestsOf targets)) (some tree) = some final) :
    entries final = (renamings gs).foldl (fun items r => written r.1 r.2 items) (entries tree) := by
  induction gs generalizing tree with
  | nil =>
    rw [← Option.some.inj hfinal]
    rfl
  | cons g gs ih =>
    rw [List.forall_mem_cons] at hdata
    rw [List.flatMap_cons, replay_append] at hfinal
    cases hnew : g.newId? with
    | none =>
      rw [requestsOf_of_newId?_eq_none hnew] at hfinal
      rw [renamings_cons_of_eq_none hnew]
      exact ih hdata.2 ht hfinal
    | some newId =>
      have hupdates := (hdata.1 (isConvertible_iff.mpr ⟨newId, hnew⟩)).updates_ne_nil
      obtain ⟨tree', hreplay, ht', hentries⟩ := replay_requestsOf_destination hne hnew hupdates ht
      rw [hreplay] at hfinal
      rw [renamings_cons_of_eq_some hnew, List.foldl_cons, ← hentries]
      exact ih hdata.2 ht' hfinal

/-- On the source a run drops the entries of all groups that get an identifier. -/
private theorem entries_replay_source {targets : Targets} (hne : targets.source ≠ targets.destination)
    {gs : List DeviceGroup} {tree final : Json} (ht : IsTree tree)
    (hfinal : replay targets.source (gs.flatMap (requestsOf targets)) (some tree) = some final) :
    entries final = (entries tree).filter fun entry =>
      !gs.any fun g => g.isConvertible && decide ((ofJson entry).id = g.id) := by
  induction gs generalizing tree with
  | nil =>
    rw [← Option.some.inj hfinal]
    exact (List.filter_eq_self.mpr fun _ _ => rfl).symm
  | cons g gs ih =>
    rw [List.flatMap_cons, replay_append] at hfinal
    cases hnew : g.newId? with
    | none =>
      have hnot : g.isConvertible = false := by
        rw [Bool.eq_false_iff]
        intro h
        obtain ⟨newId, h⟩ := isConvertible_iff.mp h
        rw [hnew] at h
        cases h
      rw [requestsOf_of_newId?_eq_none hnew] at hfinal
      rw [ih ht hfinal]
      refine List.filter_congr fun entry _ => ?_
      rw [List.any_cons, hnot, Bool.false_and, Bool.false_or]
    | some newId =>
      have hyes : g.isConvertible = true := isConvertible_iff.mpr ⟨newId, hnew⟩
      obtain ⟨oldId, hid⟩ := exists_id_of_newId? hnew
      obtain ⟨tree', hreplay, ht', hentries⟩ := replay_requestsOf_source hne hid hnew ht
      rw [hreplay] at hfinal
      -- each group that gets an identifier adds its old one to those that are dropped
      rw [ih ht' hfinal, hentries, withoutId, List.filter_filter]
      refine List.filter_congr fun entry _ => ?_
      rw [List.any_cons, hyes, Bool.true_and, Bool.not_or, Bool.and_comm, hid]
      rfl

/-- Groups under new identifiers that the destination does not know become new entries at its end. -/
private theorem foldl_written_eq_append {gs : List DeviceGroup} (hids : (gs.filterMap newId?).Nodup)
    (hlabels : ∀ g ∈ gs, g.isConvertible = true → ((ImsiBlock.intervals g.imsis).map Interval.label).Nodup)
    {items : List Json} (hfree : ∀ newId ∈ gs.filterMap newId?, ∀ entry ∈ items, shows "id" newId entry = false) :
    (renamings gs).foldl (fun items r => written r.1 r.2 items) items =
      items ++ (renamings gs).map fun r => r.1.migratedEntry r.2 := by
  rw [← map_snd_renamings] at hids hfree
  have hfresh : ∀ r ∈ renamings gs,
      r.1.writeGroup r.1.merge.merged (freshEntry "id" r.2) = r.1.migratedEntry r.2 := by
    rintro ⟨g, newId⟩ hr
    obtain ⟨hg, hnew⟩ := mem_renamings hr
    exact writeGroup_freshEntry (hlabels g hg (isConvertible_iff.mpr ⟨newId, hnew⟩)) newId
  rw [← List.map_congr_left hfresh]
  refine foldl_upsert_eq_append ?_ ?_
  · intro r hr entry he
    exact hfree r.2 (List.mem_map_of_mem hr) entry he
  · -- a new entry shows its own identifier, so no later write meets it
    refine (List.pairwise_map.mp hids).imp fun {r r'} hne => ?_
    exact shows_eq_false_of_ne hne.symm (shows_writeGroup (shows_freshEntry "id" r.2))

private theorem filter_eq_unconvertible (tree : Json) :
    ((entries tree).filter fun entry =>
      !(groups tree).any fun g => g.isConvertible && decide ((ofJson entry).id = g.id)) = unconvertible tree := by
  unfold unconvertible
  refine List.filter_congr fun entry he => congrArg (!·) ?_
  rw [Bool.eq_iff_iff, List.any_eq_true]
  constructor
  · rintro ⟨g, -, hg⟩
    rw [Bool.and_eq_true, decide_eq_true_eq] at hg
    unfold isConvertible
    rw [hg.2]
    exact hg.1
  · intro h
    exact ⟨ofJson entry, List.mem_map_of_mem he, by rw [h, Bool.true_and, decide_eq_true rfl]⟩

/-- Between different targets a run puts one entry for each group that gets an identifier at the end of the
destination, in the order of the groups, and leaves exactly the other entries on the source. -/
theorem crossTarget_result {s : MemoryStore} (targets : Targets) {source destination : Json}
    {gs existing : List DeviceGroup} (hne : targets.source ≠ targets.destination) (hgets : s.failingGets = [])
    (hsets : s.failingSets = []) (hs : s.tree? targets.source = some source) (hw : IsWritten source gs)
    (hd : s.tree? targets.destination = some destination) (hw' : IsWritten destination existing) (hnil : gs ≠ [])
    (hids : (gs.filterMap newId?).Nodup) (hfree : ∀ newId ∈ gs.filterMap newId?, ∀ e ∈ existing, e.id ≠ some newId)
    (hdata : ∀ g ∈ gs, g.isConvertible = true → g.HasData)
    (hlabels : ∀ g ∈ gs, g.isConvertible = true → ((ImsiBlock.intervals g.imsis).map Interval.label).Nodup) :
    ∃ report source' destination', (shippedMigration targets s).result = .ok report ∧
      (shippedMigration targets s).state.tree? targets.source = some source' ∧
      (shippedMigration targets s).state.tree? targets.destination = some destination' ∧
      entries destination' = entries destination ++ (renamings gs).map (fun r => r.1.migratedEntry r.2) ∧
      entries source' = unconvertible source ∧
      (∀ name, name ≠ entity → source'.member? name = source.member? name ∧
        destination'.member? name = destination.member? name) ∧
      ∀ target, target ≠ targets.source → target ≠ targets.destination →
        (shippedMigration targets s).state.tree? target = s.tree? target := by
  obtain ⟨⟨report, hreport⟩, hstate⟩ := shippedMigration_isOk targets hgets hsets hs hw hd hw' hnil
  obtain ⟨source', hsource', -, -, hmembers⟩ :=
    replay_flatMap_frame targets targets.source gs hw.isTree
  obtain ⟨destination', hdestination', -, -, hmembers'⟩ :=
    replay_flatMap_frame targets targets.destination gs hw'.isTree
  have hunknown : ∀ newId ∈ gs.filterMap newId?, ∀ entry ∈ entries destination, shows "id" newId entry = false := by
    intro newId hnew entry he
    refine decide_eq_false fun hid => ?_
    exact hfree newId hnew (ofJson entry) (hw'.eq_groups ▸ List.mem_map_of_mem he) hid
  refine ⟨report, source', destination', hreport, ?_, ?_, ?_, ?_, ?_, ?_⟩
  · rw [hstate, hs, hsource']
  · rw [hstate, hd, hdestination']
  · rw [entries_replay_destination hne hdata hw'.isTree hdestination']
    exact foldl_written_eq_append hids hlabels hunknown
  · rw [entries_replay_source hne hw.isTree hsource', hw.eq_groups]
    exact filter_eq_unconvertible source
  · exact fun name hname => ⟨hmembers name hname, hmembers' name hname⟩
  · intro target hnot hnot'
    rw [hstate]
    refine replay_of_forall_ne (fun r hr => ?_) _
    obtain ⟨g, -, hr⟩ := List.mem_flatMap.mp hr
    obtain ⟨oldId, newId, -, -, ⟨-, rfl⟩ | ⟨-, rfl⟩⟩ := mem_requestsOf hr
    · exact hnot'.symm
    · exact hnot.symm

/-- The sample tree migrated to an empty tree. -/
theorem sampleTree_crossTarget_result :
    ∃ report source' destination', (shippedMigration ⟨"v2", "v21"⟩ sampleStore).result = .ok report ∧
      (shippedMigration ⟨"v2", "v21"⟩ sampleStore).state.tree? "v2" = some source' ∧
      (shippedMigration ⟨"v2", "v21"⟩ sampleStore).state.tree? "v21" = some destination' ∧
      entries destination' = (renamings (groups sampleTree)).map (fun r => r.1.migratedEntry r.2) ∧
      entries source' = [.object [("display-name", .string "orphan")]] := by
  have hw : IsWritten sampleTree (groups sampleTree) := ⟨by decide, by decide, decode_render_of_isTree (by decide)⟩
  have hw' : IsWritten .emptyObject (groups .emptyObject) :=
    ⟨by decide, by decide, decode_render_of_isTree (by decide)⟩
  obtain ⟨report, source', destination', hreport, hs', hd', hdestination, hsource, -⟩ :=
    crossTarget_result (s := sampleStore) ⟨"v2", "v21"⟩ (by decide) rfl rfl rfl hw rfl hw' (by decide)
      (by decide) (by decide) (by decide) (by decide)
  exact ⟨report, source', destination', hreport, hs', hd', hdestination, hsource⟩

end ConfigMigration.DeviceGroup

import ConfigMigration.DeviceGroup.Sample
import ConfigMigration.Proofs.DeviceGroup.Effects

/-!
# Migration in place

A target may be its own destination.  Then the updates and deletes of all groups hit one tree, and none of them meets
the entry of another group: a normal form is its own normal form, so an identifier that is removed is never one that
is written.  Behind a run each group has at most one entry under its new identifier, and the blocks of that entry are
merged (`exists_entry`).  So no number is gained or lost (`inPlace_keeps_numbers`), and a second run finds nothing to
change (`inPlace_idempotent`).
-/

namespace ConfigMigration.DeviceGroup

open MemoryStore ConfigMigration.Tree

/-- Whether the first group with an identifier covers a number. -/
def CoveredBy (gs : List DeviceGroup) (id : String) (n : UInt64) : Prop :=
  ∃ g, gs.find? (fun g => g.id = some id) = some g ∧ g.CoversNumber n

/-- The intervals of the complete blocks of the first group with an identifier; none if there is no such group. -/
def intervalsOf (gs : List DeviceGroup) (id : String) : List Interval :=
  match gs.find? (fun g => g.id = some id) with
  | some g => ImsiBlock.intervals g.imsis
  | none => []

/-! ### One group -/

private theorem replay_write_of_entry {t : String} {g : DeviceGroup} {id : String} {tree entry : Json}
    (ht : IsTree tree) (he : (entries tree).filter (shows "id" id) = [entry]) :
    ∃ tree', replay t (if g.updates g.merge.merged = [] then [] else [writeRequest ⟨t, t⟩ g id]) (some tree) =
        some tree' ∧ IsTree tree' ∧
      (entries tree').filter (shows "id" id) = [g.writeGroup g.merge.merged entry] := by
  by_cases hdata : g.updates g.merge.merged = []
  · rw [if_pos hdata, writeGroup_of_updates_eq_nil hdata]
    exact ⟨tree, rfl, ht, he⟩
  · obtain ⟨tree', happly, ht', hedits⟩ := applyTo_writeRequest ⟨t, t⟩ id hdata ht
    refine ⟨tree', ?_, ht', ?_⟩
    · rw [if_neg hdata, replay_cons]
      exact step_of_applyTo happly
    · unfold entries at he ⊢
      rw [hedits.items, filter_written_self, he]
      rfl

/-- Writing a group whose entry is missing adds the entry, if there is anything to write. -/
private theorem replay_write_of_missing {t : String} {g : DeviceGroup} {id : String} {tree : Json}
    (ht : IsTree tree) (he : (entries tree).filter (shows "id" id) = []) {q : Json → Bool} (hq : Apart id q) :
    ∃ tree', replay t (if g.updates g.merge.merged = [] then [] else [writeRequest ⟨t, t⟩ g id]) (some tree) =
        some tree' ∧ IsTree tree' ∧
      (entries tree').filter (shows "id" id) =
        (if g.updates g.merge.merged = [] then [] else [g.writeGroup g.merge.merged (freshEntry "id" id)]) ∧
      (entries tree').filter q = (entries tree).filter q := by
  by_cases hdata : g.updates g.merge.merged = []
  · rw [if_pos hdata, if_pos hdata]
    exact ⟨tree, rfl, ht, he, rfl⟩
  · obtain ⟨tree', happly, ht', hedits⟩ := applyTo_writeRequest ⟨t, t⟩ id hdata ht
    refine ⟨tree', ?_, ht', ?_, ?_⟩
    · rw [if_neg hdata, replay_cons]
      exact step_of_applyTo happly
    · unfold entries at he ⊢
      rw [if_neg hdata, hedits.items, filter_written_self, he]
      rfl
    · unfold entries
      rw [hedits.items]
      exact filter_written_of_apart hq _

/-- A group that keeps its identifier keeps its entry, which loses the absorbed blocks. -/
private theorem replay_requestsOf_same {t : String} {g : DeviceGroup} {id : String} (hid : g.id = some id)
    (hnew : g.newId? = some id) {tree entry : Json} (ht : IsTree tree)
    (he : (entries tree).filter (shows "id" id) = [entry]) :
    ∃ tree', replay t (requestsOf ⟨t, t⟩ g) (some tree) = some tree' ∧ IsTree tree' ∧
      (entries tree').filter (shows "id" id) =
        [dropBlocks (ImsiBlock.absorbed g.merge) (g.writeGroup g.merge.merged entry)] := by
  obtain ⟨tree₁, hreplay₁, ht₁, he₁⟩ := replay_write_of_entry (t := t) (g := g) ht he
  rw [requestsOf_eq hid hnew, replay_append, hreplay₁]
  obtain ⟨tree₂, happly, ht₂, hedits⟩ := applyTo_removeRequest ⟨t, t⟩ g id id ht₁
  by_cases hnone : (removeRequest ⟨t, t⟩ g id id).deletes = []
  · -- without absorbed blocks there is no second request
    have habsorbed : ImsiBlock.absorbed g.merge = [] := by
      unfold removeRequest deletes at hnone
      simpa [ImsiBlock.absorbed] using hnone
    have hentry : IsGroup (g.writeGroup g.merge.merged entry) :=
      ht₁.isGroup _ (List.mem_filter.mp (he₁ ▸ List.mem_cons_self ..)).1
    rw [if_pos hnone, habsorbed, dropBlocks_nil hentry]
    exact ⟨tree₁, rfl, ht₁, he₁⟩
  · refine ⟨tree₂, ?_, ht₂, ?_⟩
    · rw [if_neg hnone, replay_cons]
      exact step_of_applyTo happly
    · unfold entries at he₁ ⊢
      rw [hedits.items, filter_removed_self rfl he₁]

/-- A group that gets another identifier loses its old entry, and gets a new one if there is anything to write. -/
private theorem replay_requestsOf_renamed {t : String} {g : DeviceGroup} {oldId newId : String}
    (hid : g.id = some oldId) (hnew : g.newId? = some newId) (hne : newId ≠ oldId) {tree : Json} (ht : IsTree tree)
    (he : (entries tree).filter (shows "id" newId) = []) :
    ∃ tree', replay t (requestsOf ⟨t, t⟩ g) (some tree) = some tree' ∧ IsTree tree' ∧
      (entries tree').filter (shows "id" oldId) = [] ∧
      (entries tree').filter (shows "id" newId) =
        if g.updates g.merge.merged = [] then [] else [g.writeGroup g.merge.merged (freshEntry "id" newId)] := by
  obtain ⟨tree₁, hreplay₁, ht₁, he₁, -⟩ := replay_write_of_missing (t := t) (g := g) ht he (apart_of_ne hne.symm)
  rw [requestsOf_eq hid hnew, replay_append, hreplay₁]
  obtain ⟨tree₂, happly, ht₂, hedits⟩ := applyTo_removeRequest ⟨t, t⟩ g oldId newId ht₁
  have hremoved : removed ⟨t, t⟩ g oldId newId = withoutId oldId := if_neg fun h => hne h.2
  have hsome : (removeRequest ⟨t, t⟩ g oldId newId).deletes ≠ [] := by
    unfold removeRequest deletes
    rw [if_neg fun h => hne h.2]
    exact List.cons_ne_nil _ _
  refine ⟨tree₂, ?_, ht₂, ?_, ?_⟩
  · rw [if_neg hsome, replay_cons]
    exact step_of_applyTo happly
  · unfold entries
    rw [hedits.items, hremoved, filter_withoutId_self]
  · unfold entries at he₁ ⊢
    rw [hedits.items, filter_removed_of_apart (apart_of_ne hne), he₁]

/-! ### All groups -/

/-- The entries of a group behind a run in place: none under an identifier that it has lost, and under its new one
merged blocks. -/
structure IsMigrated (g : DeviceGroup) (oldId newId : String) (final : Json) : Prop where
  gone : newId ≠ oldId → (entries final).filter (shows "id" oldId) = []
  entry : (entries final).filter (shows "id" newId) = [] ∧ g.merge.merged = [] ∨
    ∃ entry, (entries final).filter (shows "id" newId) = [entry] ∧
      ImsiBlock.IsMerged g.merge.merged (ofJson entry).imsis

private theorem filter_shows_eq_nil {items : List Json} {newId id : String}
    (hne : ∀ other ∈ items.map ofJson, ∀ newId', other.newId? = some newId' → newId' ≠ newId)
    (hnormal : Identifier.normalize id = .ok newId) : items.filter (shows "id" id) = [] := by
  refine List.filter_eq_nil_iff.mpr fun entry he hs => ?_
  refine hne _ (List.mem_map_of_mem he) newId ?_ rfl
  rw [newId?_ofJson hs, hnormal]
  rfl

private theorem filter_entries_of_nodup {tree : Json} {before after : List DeviceGroup} {g : DeviceGroup}
    (hgs : before ++ g :: after = groups tree) (hids : ((before ++ g :: after).filterMap newId?).Nodup)
    {oldId newId : String} (hid : g.id = some oldId) (hnew : g.newId? = some newId) :
    (∃ entry, (entries tree).filter (shows "id" oldId) = [entry] ∧ ofJson entry = g) ∧
      (newId ≠ oldId → (entries tree).filter (shows "id" newId) = []) := by
  obtain ⟨items, rest, hitems, rfl, hrest⟩ := List.map_eq_append_iff.mp hgs.symm
  obtain ⟨entry, items', rfl, rfl, rfl⟩ := List.map_eq_cons_iff.mp hrest
  obtain ⟨hold, hnormal⟩ := normalize_of_newId? hid hnew
  have hbefore : ∀ other ∈ items.map ofJson, ∀ newId', other.newId? = some newId' → newId' ≠ newId :=
    fun other ho newId' h => newId?_ne_of_nodup hids hnew (List.mem_append_left _ ho) h
  have hafter : ∀ other ∈ items'.map ofJson, ∀ newId', other.newId? = some newId' → newId' ≠ newId :=
    fun other ho newId' h => newId?_ne_of_nodup hids hnew (List.mem_append_right _ ho) h
  have hshows : shows "id" oldId entry = true := shows_iff.mpr hid
  rw [hitems]
  constructor
  · refine ⟨entry, ?_, rfl⟩
    rw [List.filter_append, List.filter_cons_of_pos hshows, filter_shows_eq_nil hbefore hold,
      filter_shows_eq_nil hafter hold, List.nil_append]
  · intro hne
    have hnot : ¬shows "id" newId entry = true := by
      rw [shows_eq_false_of_ne hne hshows]
      exact Bool.false_ne_true
    rw [List.filter_append, List.filter_cons_of_neg hnot, filter_shows_eq_nil hbefore hnormal,
      filter_shows_eq_nil hafter hnormal, List.nil_append]

private theorem isMigrated_of_replay {t : String} {g : DeviceGroup} (hn : (ImsiBlock.labels g.imsis).Nodup)
    {oldId newId : String} (hid : g.id = some oldId) (hnew : g.newId? = some newId) {tree : Json} (ht : IsTree tree)
    (hold : ∃ entry, (entries tree).filter (shows "id" oldId) = [entry] ∧ ofJson entry = g)
    (hfree : newId ≠ oldId → (entries tree).filter (shows "id" newId) = []) :
    ∃ tree', replay t (requestsOf ⟨t, t⟩ g) (some tree) = some tree' ∧ IsTree tree' ∧
      IsMigrated g oldId newId tree' := by
  by_cases hne : newId = oldId
  · -- the entry stays, its merged blocks in the places of the old ones
    subst hne
    obtain ⟨entry, he, hentry⟩ := hold
    obtain ⟨tree', hreplay, ht', he'⟩ := replay_requestsOf_same (t := t) hid hnew ht he
    have hgroup : IsGroup entry := ht.isGroup entry (List.mem_filter.mp (he ▸ List.mem_cons_self ..)).1
    refine ⟨tree', hreplay, ht', fun h => absurd rfl h, .inr ⟨_, he', ?_⟩⟩
    rw [ofJson_dropBlocks (isGroup_writeGroup hgroup), ofJson_writeGroup hgroup, hentry]
    exact ImsiBlock.isMerged_kept hn
  · -- the entry is made anew, with nothing but the merged blocks
    obtain ⟨tree', hreplay, ht', hgone, he'⟩ := replay_requestsOf_renamed (t := t) hid hnew hne ht (hfree hne)
    refine ⟨tree', hreplay, ht', fun _ => hgone, ?_⟩
    by_cases hdata : g.updates g.merge.merged = []
    · rw [if_pos hdata] at he'
      exact .inl ⟨he', (eq_nil_of_updates_eq_nil hdata).2.2.2⟩
    · rw [if_neg hdata] at he'
      refine .inr ⟨_, he', ?_⟩
      rw [ofJson_writeGroup (isGroup_freshEntry newId)]
      exact ImsiBlock.isMerged_writeEnds_nil (ImsiBlock.nodup_labels_intervals hn)

/-- Behind a run in place, each group that gets an identifier has at most one entry, with merged blocks. -/
theorem exists_entry {t : String} {gs : List DeviceGroup} (hids : (gs.filterMap newId?).Nodup) {g : DeviceGroup}
    (hg : g ∈ gs) (hn : (ImsiBlock.labels g.imsis).Nodup) {oldId newId : String} (hid : g.id = some oldId)
    (hnew : g.newId? = some newId) {tree final : Json} (hgs : gs = groups tree) (ht : IsTree tree)
    (hfinal : replay t (gs.flatMap (requestsOf ⟨t, t⟩)) (some tree) = some final) :
    IsMigrated g oldId newId final := by
  obtain ⟨before, after, rfl⟩ := List.append_of_mem hg
  have hother : ∀ other ∈ before ++ after,
      Untouched ⟨t, t⟩ t (shows "id" oldId) other ∧ Untouched ⟨t, t⟩ t (shows "id" newId) other :=
    fun other ho => untouched_of_ne hid hnew fun newId' hnew' => newId?_ne_of_nodup hids hnew ho hnew'
  obtain ⟨hold, hfree⟩ := filter_entries_of_nodup hgs hids hid hnew
  rw [List.flatMap_append, List.flatMap_cons, replay_append, replay_append] at hfinal
  -- the groups before leave the entries of the group as they were
  obtain ⟨tree₁, hreplay₁, ht₁, hfilter₁, -⟩ := replay_flatMap_frame ⟨t, t⟩ t before ht
  have hold₁ := hfilter₁ _ fun other ho => (hother other (List.mem_append_left _ ho)).1
  have hfree₁ := hfilter₁ _ fun other ho => (hother other (List.mem_append_left _ ho)).2
  rw [← hold₁] at hold
  rw [← hfree₁] at hfree
  obtain ⟨tree₂, hreplay₂, ht₂, hgone, hentry⟩ := isMigrated_of_replay (t := t) hn hid hnew ht₁ hold hfree
  -- the groups behind leave them as the group has written them
  obtain ⟨tree₃, hreplay₃, -, hfilter₃, -⟩ := replay_flatMap_frame ⟨t, t⟩ t after ht₂
  have hold₃ := hfilter₃ _ fun other ho => (hother other (List.mem_append_right _ ho)).1
  have hfree₃ := hfilter₃ _ fun other ho => (hother other (List.mem_append_right _ ho)).2
  rw [hreplay₁, hreplay₂, hreplay₃] at hfinal
  rw [← Option.some.inj hfinal]
  exact ⟨fun hne => hold₃.trans (hgone hne), by rw [hfree₃]; exact hentry⟩

/-- The complete blocks of a group behind a run in place are its merged intervals. -/
theorem IsMigrated.perm {g : DeviceGroup} {oldId newId : String} {final : Json}
    (h : IsMigrated g oldId newId final) : (intervalsOf (groups final) newId).Perm g.merge.merged := by
  unfold intervalsOf
  rw [find?_groups, ← List.head?_filter]
  rcases h.entry with ⟨hnone, hmerged⟩ | ⟨entry, hsome, hmerged⟩
  · rw [hnone, hmerged]
    exact List.Perm.refl _
  · rw [hsome, ← hmerged.sort_intervals]
    exact (Interval.sort_perm _).symm

theorem coveredBy_iff (gs : List DeviceGroup) (id : String) (n : UInt64) :
    CoveredBy gs id n ↔ ∃ i ∈ intervalsOf gs id, i.Covers n := by
  unfold CoveredBy intervalsOf CoversNumber
  cases gs.find? fun g => g.id = some id with
  | none => simp
  | some g => simp

/-- A run in place keeps the numbers of each group that gets an identifier, under its normal form, and merges its
complete blocks; the other entries stay as they are. -/
theorem inPlace_keeps_numbers {s : MemoryStore} {t : String} {tree : Json} {gs : List DeviceGroup}
    (hgets : s.failingGets = []) (hsets : s.failingSets = []) (htree : s.tree? t = some tree) (hw : IsWritten tree gs)
    (hne : gs ≠ []) (hids : (gs.filterMap newId?).Nodup) (hlabels : ∀ g ∈ gs, (ImsiBlock.labels g.imsis).Nodup) :
    ∃ report final gs', (shippedMigration ⟨t, t⟩ s).result = .ok report ∧
      (shippedMigration ⟨t, t⟩ s).state.tree? t = some final ∧ treeDecoder.decode final.render = .ok gs' ∧
      (∀ g ∈ gs, ∀ oldId, g.id = some oldId → Identifier.HasLetter oldId →
        ∃ newId, Identifier.normalize oldId = .ok newId ∧ (∀ n, CoveredBy gs oldId n ↔ CoveredBy gs' newId n) ∧
          (intervalsOf gs' newId).Perm g.merge.merged) ∧
      unconvertible final = unconvertible tree := by
  obtain ⟨⟨report, hreport⟩, hstate⟩ := shippedMigration_isOk ⟨t, t⟩ hgets hsets htree hw htree hw hne
  obtain ⟨final, hfinal, ht, hfilter, -⟩ := replay_flatMap_frame ⟨t, t⟩ t gs hw.isTree
  refine ⟨report, final, groups final, hreport, ?_, decode_render_of_isTree ht, ?_, ?_⟩
  · rw [hstate, htree, hfinal]
  · intro g hg oldId hid hletter
    obtain ⟨newId, hnormal⟩ := Identifier.normalize_isOk_iff.mpr hletter
    have hnew : g.newId? = some newId := newId?_eq_some_iff.mpr ⟨oldId, hid, hnormal⟩
    have hperm := (exists_entry hids hg (hlabels g hg) hid hnew hw.eq_groups hw.isTree hfinal).perm
    refine ⟨newId, hnormal, fun n => ?_, hperm⟩
    rw [coveredBy_iff, coveredBy_iff, intervalsOf, find?_id_of_nodup hids hg hid hnew]
    calc (∃ i ∈ ImsiBlock.intervals g.imsis, i.Covers n)
        ↔ ∃ i ∈ g.merge.merged, i.Covers n := coversNumber_iff g n
      _ ↔ ∃ i ∈ intervalsOf (groups final) newId, i.Covers n :=
        exists_congr fun i => and_congr_left fun _ => hperm.mem_iff.symm
  · exact hfilter _ fun g _ => untouched_of_isConvertible _ _ g

/-- The sample tree migrated in place: the numbers of the group that is renamed are kept. -/
theorem sampleTree_inPlace_keeps_numbers :
    ∃ report final gs', (shippedMigration ⟨"v2", "v2"⟩ sampleStore).result = .ok report ∧
      (shippedMigration ⟨"v2", "v2"⟩ sampleStore).state.tree? "v2" = some final ∧
      treeDecoder.decode final.render = .ok gs' ∧
      (∃ newId, Identifier.normalize "starbucks_NewYork" = .ok newId ∧ CoveredBy gs' newId 250) ∧
      unconvertible final = [.object [("display-name", .string "orphan")]] := by
  have hw : IsWritten sampleTree (groups sampleTree) := ⟨by decide, by decide, decode_render_of_isTree (by decide)⟩
  obtain ⟨report, final, gs', hreport, hfinal, hdecoded, hgroups, hothers⟩ :=
    inPlace_keeps_numbers (s := sampleStore) (t := "v2") rfl rfl rfl hw (by decide) (by decide) (by decide)
  obtain ⟨newId, hnormal, hnumbers, -⟩ := hgroups _ (List.mem_cons_self ..) "starbucks_NewYork" rfl (by decide)
  refine ⟨report, final, gs', hreport, hfinal, hdecoded, ⟨newId, hnormal, (hnumbers 250).mp ?_⟩, ?_⟩
  · exact ⟨_, rfl, ⟨200, 299, "back"⟩, by decide, by decide⟩
  · rw [hothers]
    rfl

/-! ### A second run -/

/-- Behind a run in place, an entry whose identifier has a letter comes from a group, and shows its normal form. -/
private theorem exists_group_of_mem_final {t : String} {gs : List DeviceGroup} (hids : (gs.filterMap newId?).Nodup)
    (hlabels : ∀ g ∈ gs, (ImsiBlock.labels g.imsis).Nodup) {tree final : Json} (hgs : gs = groups tree)
    (ht : IsTree tree) (hfinal : replay t (gs.flatMap (requestsOf ⟨t, t⟩)) (some tree) = some final) {entry : Json}
    (he : entry ∈ entries final) {id newId : String} (hid : (ofJson entry).id = some id)
    (hnew : (ofJson entry).newId? = some newId) : ∃ g ∈ gs, g.newId? = some id := by
  by_contra hnone
  have hnone : ∀ g ∈ gs, g.newId? ≠ some id := fun g hg h => hnone ⟨g, hg, h⟩
  have hshown : entry ∈ (entries final).filter (shows "id" id) := List.mem_filter.mpr ⟨he, shows_iff.mpr hid⟩
  by_cases hold : ∃ g ∈ gs, g.id = some id
  · -- the identifier is one that a group has lost
    obtain ⟨g, hg, hgid⟩ := hold
    have hgnew : g.newId? = some newId := by
      rw [← hnew, newId?, newId?, hgid, hid]
    have hmigrated := exists_entry hids hg (hlabels g hg) hgid hgnew hgs ht hfinal
    rw [hmigrated.gone fun heq => hnone g hg (heq ▸ hgnew)] at hshown
    cases hshown
  · -- the identifier is not that of any group, old or new
    obtain ⟨tree', hreplay, -, hfilter, -⟩ := replay_flatMap_frame ⟨t, t⟩ t gs ht
    rw [hfinal] at hreplay
    have huntouched : ∀ g ∈ gs, Untouched ⟨t, t⟩ t (shows "id" id) g := by
      intro g hg
      constructor
      · intro _ newId' hnew'
        refine apart_of_ne fun heq => ?_
        exact hnone g hg (heq ▸ hnew')
      · intro _ oldId' newId' hid' _
        refine apart_of_ne fun heq => ?_
        exact hold ⟨g, hg, heq ▸ hid'⟩
    rw [Option.some.inj hreplay, hfilter _ huntouched] at hshown
    obtain ⟨hmem, hs⟩ := List.mem_filter.mp hshown
    exact hold ⟨ofJson entry, hgs ▸ List.mem_map_of_mem hmem, shows_iff.mp hs⟩

/-- The requests for a group whose blocks are merged, and which has its new identifier, change nothing. -/
private theorem applyTo_eq_self {t : String} {l : List Interval} {final entry : Json} (ht : IsTree final)
    {id : String} (he : (entries final).filter (shows "id" id) = [entry])
    (hm : ImsiBlock.IsMerged (Interval.merge l).merged (ofJson entry).imsis)
    (hnew : (ofJson entry).newId? = some id) {r : SetRequest} (hr : r ∈ requestsOf ⟨t, t⟩ (ofJson entry)) :
    applyTo r final = .ok final := by
  obtain ⟨hmem, hs⟩ :=
    List.mem_filter.mp (he ▸ List.mem_cons_self .. : entry ∈ (entries final).filter (shows "id" id))
  have hid : (ofJson entry).id = some id := shows_iff.mp hs
  have hmerge : (ofJson entry).merge = ⟨(Interval.merge l).merged, []⟩ := hm.merge_eq
  obtain ⟨oldId, newId, hid', hnew', ⟨hdata, rfl⟩ | ⟨hdeletes, rfl⟩⟩ := mem_requestsOf hr
  · -- the writing of an entry that shows all of it already
    rw [hnew] at hnew'
    obtain ⟨tree', happly, -, hedits⟩ := applyTo_writeRequest ⟨t, t⟩ newId hdata ht
    have hself : (ofJson entry).writeGroup (ofJson entry).merge.merged entry = entry := by
      rw [hmerge]
      refine writeGroup_eq_self (ht.isGroup entry hmem) fun i hi => ?_
      exact ⟨_, hm.find?_label i hi, rfl, rfl⟩
    have hfind : (entries final).find? (shows "id" newId) = some entry := by
      rw [← List.head?_filter, ← Option.some.inj hnew', he]
      rfl
    rw [happly, hedits.eq_self (upsert_eq_self hfind hself)]
  · -- nothing is absorbed, so there is nothing to remove
    rw [hid] at hid'
    rw [hnew] at hnew'
    refine absurd ?_ hdeletes
    unfold removeRequest deletes
    rw [hmerge, if_pos (by simp [← Option.some.inj hid', ← Option.some.inj hnew'])]
    rfl

private theorem applyTo_eq_self_of_final {t : String} {gs : List DeviceGroup} (hids : (gs.filterMap newId?).Nodup)
    (hlabels : ∀ g ∈ gs, (ImsiBlock.labels g.imsis).Nodup) {tree final : Json} (hgs : gs = groups tree)
    (ht : IsTree tree) (hfinal : replay t (gs.flatMap (requestsOf ⟨t, t⟩)) (some tree) = some final)
    (htfinal : IsTree final) {r : SetRequest} (hr : r ∈ (groups final).flatMap (requestsOf ⟨t, t⟩)) :
    applyTo r final = .ok final := by
  obtain ⟨g', hg', hr⟩ := List.mem_flatMap.mp hr
  obtain ⟨entry, he, rfl⟩ := List.mem_map.mp hg'
  obtain ⟨id, newId', hid, hnew', -⟩ := mem_requestsOf hr
  obtain ⟨g, hg, hgnew⟩ := exists_group_of_mem_final hids hlabels hgs ht hfinal he hid hnew'
  obtain ⟨oldId, hgid⟩ := exists_id_of_newId? hgnew
  have hshown : entry ∈ (entries final).filter (shows "id" id) := List.mem_filter.mpr ⟨he, shows_iff.mpr hid⟩
  rcases (exists_entry hids hg (hlabels g hg) hgid hgnew hgs ht hfinal).entry with ⟨hnone, -⟩ | ⟨entry', hsome, hm⟩
  · rw [hnone] at hshown
    cases hshown
  · rw [hsome, List.mem_singleton] at hshown
    subst hshown
    have hnew : (ofJson entry).newId? = some id := by
      rw [newId?_ofJson (shows_iff.mpr hid), (normalize_of_newId? hgid hgnew).2]
      rfl
    exact applyTo_eq_self htfinal hsome hm hnew hr

private theorem tree?_of_applyTo_eq_self {s : MemoryStore} {t : String} {final : Json} (hgets : s.failingGets = [])
    (hfinal : s.tree? t = some final) (ht : IsTree final)
    (hself : ∀ r ∈ (groups final).flatMap (requestsOf ⟨t, t⟩), applyTo r final = .ok final) :
    (shippedMigration ⟨t, t⟩ s).state.tree? t = some final := by
  have hdecoded := decode_render_of_isTree ht
  have hreads : Reads s ⟨t, t⟩ (groups final) (groups final) :=
    ⟨by simp [hgets], by simp [hgets], ⟨final, hfinal, hdecoded⟩, ⟨final, hfinal, hdecoded⟩⟩
  by_cases hnil : groups final = []
  · rw [hnil] at hreads
    rw [(shippedMigration_of_nil hreads).2]
    exact hfinal
  · obtain ⟨acknowledged, hpre, htrees⟩ :=
      exists_replay ((groups final).flatMap (requestsOf ⟨t, t⟩)) (fetched ⟨t, t⟩ s)
    have hstart : (fetched ⟨t, t⟩ s).tree? t = some final := hfinal
    rw [(shippedMigration_of_ne_nil hreads hnil).2, htrees, hstart]
    exact replay_eq_self fun r hr _ => hself r (hpre.subset hr)

/-- A second run in place leaves the tree exactly as the first run left it. -/
theorem inPlace_idempotent {s : MemoryStore} {t : String} {tree : Json} {gs : List DeviceGroup}
    (hgets : s.failingGets = []) (hsets : s.failingSets = []) (htree : s.tree? t = some tree) (hw : IsWritten tree gs)
    (hids : (gs.filterMap newId?).Nodup) (hlabels : ∀ g ∈ gs, (ImsiBlock.labels g.imsis).Nodup) :
    (shippedMigration ⟨t, t⟩ (shippedMigration ⟨t, t⟩ s).state).state.tree? t =
      (shippedMigration ⟨t, t⟩ s).state.tree? t := by
  have hreads : Reads s ⟨t, t⟩ gs gs := reads_of_isWritten hgets htree hw htree hw
  by_cases hnil : gs = []
  · -- neither run sends a request
    subst hnil
    have hfirst : (shippedMigration ⟨t, t⟩ s).state.tree? t = some tree := by
      rw [(shippedMigration_of_nil hreads).2]
      exact htree
    have hkept : (shippedMigration ⟨t, t⟩ s).state.failingGets = [] := by
      rw [(shippedMigration_of_nil hreads).2]
      exact hgets
    rw [hfirst]
    refine tree?_of_applyTo_eq_self hkept hfirst hw.isTree ?_
    rw [← hw.eq_groups]
    intro r hr
    cases hr
  · -- the first run sends all of its requests, and those of the second change nothing
    obtain ⟨final, hfinal, ht, -⟩ := replay_flatMap_frame ⟨t, t⟩ t gs hw.isTree
    obtain ⟨-, htrees⟩ := shippedMigration_isOk ⟨t, t⟩ hgets hsets htree hw htree hw hnil
    have hfirst : (shippedMigration ⟨t, t⟩ s).state.tree? t = some final := by
      rw [htrees, htree, hfinal]
    have hkept : (shippedMigration ⟨t, t⟩ s).state.failingGets = [] := by
      rw [(shippedMigration_of_ne_nil hreads hnil).2, (failures_sendAll _ _).1]
      exact hgets
    rw [hfirst]
    refine tree?_of_applyTo_eq_self hkept hfirst ht fun r hr => ?_
    exact applyTo_eq_self_of_final hids hlabels hw.eq_groups hw.isTree hfinal ht hr

/-- The sample tree migrated in place twice. -/
theorem sampleTree_inPlace_idempotent :
    (shippedMigration ⟨"v2", "v2"⟩ (shippedMigration ⟨"v2", "v2"⟩ sampleStore).state).state.tree? "v2" =
      (shippedMigration ⟨"v2", "v2"⟩ sampleStore).state.tree? "v2" := by
  have hw : IsWritten sampleTree (groups sampleTree) := ⟨by decide, by decide, decode_render_of_isTree (by decide)⟩
  exact inPlace_idempotent (s := sampleStore) (t := "v2") rfl rfl rfl hw (by decide) (by decide)

end ConfigMigration.DeviceGroup

import ConfigMigration.DeviceGroup.Sample
import ConfigMigration.Proofs.DeviceGroup.Effects

/-!
# No data is lost in a failing run

A run may fail at any Set request, so that only the first requests of its sequence have been acknowledged.  A group
is written before it is removed, and no other group reaches its entries.  So at any time either the old entry is as
it was, or the new entry carries what the group had (`data_survives_failures`).
-/

namespace ConfigMigration.DeviceGroup

open MemoryStore ConfigMigration.Tree

/-- An entry carries a group that was written into it: its texts, and a block for each merged interval. -/
structure Carries (g e : DeviceGroup) : Prop where
  displayName : ∀ t, g.displayName = some t → e.displayName = some t
  description : ∀ t, g.description = some t → e.description = some t
  site : ∀ t, g.site = some t → e.site = some t
  block : ∀ i ∈ g.merge.merged, e.imsis.find? (fun b => b.id = some i.label) = some (ImsiBlock.ofInterval i)

/-- A tree of groups with an entry that carries a group. -/
def CarriedBy (g : DeviceGroup) (newId : String) (tree : Json) : Prop :=
  IsTree tree ∧ ∃ entry, (entries tree).find? (shows "id" newId) = some entry ∧ Carries g (ofJson entry)

/-- Behind a run, the old entry on the source or the new entry on the destination has a property. -/
def StillHeld (s : MemoryStore) (targets : Targets) (oldId newId : String) (P : DeviceGroup → Prop) : Prop :=
  EntryHolds (shippedMigration targets s).state targets.source oldId P ∨
    EntryHolds (shippedMigration targets s).state targets.destination newId P

/-! ### Carrying a group -/

theorem Carries.coversNumber {g e : DeviceGroup} (h : Carries g e) {n : UInt64} (hn : g.CoversNumber n) :
    e.CoversNumber n := by
  obtain ⟨i, hi, hcovers⟩ := (coversNumber_iff g n).mp hn
  have hmem := List.mem_of_find?_eq_some (h.block i hi)
  have hcomplete := ImsiBlock.isComplete_of_mem_merged hi
  exact ⟨i, List.mem_filterMap.mpr ⟨_, hmem, ImsiBlock.interval?_ofInterval hcomplete⟩, hcovers⟩

theorem carries_writeGroup {g : DeviceGroup} (hn : (ImsiBlock.labels g.imsis).Nodup) {entry : Json}
    (he : IsGroup entry) : Carries g (ofJson (g.writeGroup g.merge.merged entry)) := by
  have htext : ∀ (o p : Option String) (t : String), o = some t → o.or p = some t := by
    rintro o p t rfl
    rfl
  rw [ofJson_writeGroup he]
  refine ⟨fun t ht => htext _ _ t ht, fun t ht => htext _ _ t ht, fun t ht => htext _ _ t ht, fun i hi => ?_⟩
  exact ImsiBlock.find?_writeEnds (Interval.nodup_labels_merged (ImsiBlock.nodup_labels_intervals hn)) hi _

theorem Carries.dropBlocks {g : DeviceGroup} {entry : Json} (he : IsGroup entry) (h : Carries g (ofJson entry)) :
    Carries g (ofJson (dropBlocks (ImsiBlock.absorbed g.merge) entry)) := by
  rw [ofJson_dropBlocks he]
  refine ⟨h.displayName, h.description, h.site, fun i hi => ?_⟩
  exact (ImsiBlock.find?_filter_absorbed hi _).trans (h.block i hi)

/-- Writing a group makes the tree carry it. -/
theorem carriedBy_written {g : DeviceGroup} (hn : (ImsiBlock.labels g.imsis).Nodup) {newId : String}
    {tree tree' : Json} (ht : IsTree tree) (ht' : IsTree tree') (h : Edits entity (written g newId) tree tree') :
    CarriedBy g newId tree' := by
  refine ⟨ht', g.writeGroup g.merge.merged (((entries tree).find? (shows "id" newId)).getD (freshEntry "id" newId)),
    ?_, carries_writeGroup hn ?_⟩
  · unfold entries
    rw [h.items]
    exact find?_upsert_self (shows_freshEntry "id" newId) fun _ => shows_writeGroup
  · cases hf : (entries tree).find? (shows "id" newId) with
    | none => exact isGroup_freshEntry newId
    | some entry => exact ht.isGroup entry (List.mem_of_find?_eq_some hf)

/-- Removing what is left of a group keeps what was written for it. -/
theorem CarriedBy.removed {targets : Targets} (hsame : targets.source = targets.destination) {g : DeviceGroup}
    {oldId newId : String} {tree tree' : Json} (hc : CarriedBy g newId tree) (ht' : IsTree tree')
    (h : Edits entity (removed targets g oldId newId) tree tree') : CarriedBy g newId tree' := by
  obtain ⟨ht, entry, he, hcarries⟩ := hc
  by_cases hid : newId = oldId
  · refine ⟨ht', DeviceGroup.dropBlocks (ImsiBlock.absorbed g.merge) entry, ?_,
      hcarries.dropBlocks (ht.isGroup entry (List.mem_of_find?_eq_some he))⟩
    unfold entries at he ⊢
    rw [← List.head?_filter] at he
    cases hf : (tree.itemsAt entity).filter (shows "id" newId) with
    | nil =>
      rw [hf] at he
      cases he
    | cons first rest =>
      rw [hf] at he
      rw [h.items, ← hid, ← List.head?_filter, filter_removed_self hsame hf, ← Option.some.inj he]
      rfl
  · refine ⟨ht', entry, ?_, hcarries⟩
    have hapart : Apart oldId (shows "id" newId) := apart_of_ne hid
    unfold entries at he ⊢
    rw [h.items, ← List.head?_filter, filter_removed_of_apart hapart, List.head?_filter, he]

theorem CarriedBy.other {targets : Targets} {g other : DeviceGroup} {newId : String} {r : SetRequest}
    (hr : r ∈ requestsOf targets other) (hq : Untouched targets r.target (shows "id" newId) other) {tree : Json}
    (hc : CarriedBy g newId tree) : ∃ tree', applyTo r tree = .ok tree' ∧ CarriedBy g newId tree' := by
  obtain ⟨ht, entry, he, hcarries⟩ := hc
  obtain ⟨tree', happly, ht', hfilter, -⟩ := applyTo_frame hr ht
  refine ⟨tree', happly, ht', entry, ?_, hcarries⟩
  rw [← List.head?_filter, hfilter _ hq, List.head?_filter, he]

/-- The removing of what is left of a group, and the requests for other groups,
keep what was written for the group. -/
private theorem carriedBy_replay {targets : Targets} {g : DeviceGroup} {oldId newId : String}
    {others : List DeviceGroup} {requests : List SetRequest}
    (hr : ∀ r ∈ requests,
      r ∈ (if (removeRequest targets g oldId newId).deletes = [] then [] else [removeRequest targets g oldId newId]) ∨
        r ∈ others.flatMap (requestsOf targets))
    (hother : ∀ other ∈ others, Untouched targets targets.destination (shows "id" newId) other) {tree : Json}
    (hc : CarriedBy g newId tree) :
    ∃ final, replay targets.destination requests (some tree) = some final ∧ CarriedBy g newId final := by
  refine replay_induction (fun r hmem htarget tree₁ hc₁ => ?_) hc
  rcases hr r hmem with hr | hr
  · split at hr
    · cases hr
    · rw [List.mem_singleton.mp hr] at htarget ⊢
      obtain ⟨tree₂, happly, ht₂, hedits⟩ := applyTo_removeRequest targets g oldId newId hc₁.1
      exact ⟨tree₂, happly, hc₁.removed htarget ht₂ hedits⟩
  · obtain ⟨other, ho, hr⟩ := List.mem_flatMap.mp hr
    exact CarriedBy.other hr (htarget ▸ hother other ho) hc₁

/-! ### Failing runs -/

private theorem prefix_append_cons {α : Type} {l before after : List α} {a : α} (h : l <+: before ++ a :: after) :
    l <+: before ∨ ∃ rest, l = before ++ a :: rest ∧ rest <+: after := by
  induction before generalizing l with
  | nil =>
    cases l with
    | nil => exact .inl List.prefix_rfl
    | cons b l =>
      obtain ⟨rfl, hl⟩ := List.cons_prefix_cons.mp h
      exact .inr ⟨l, rfl, hl⟩
  | cons c before ih =>
    cases l with
    | nil => exact .inl List.nil_prefix
    | cons b l =>
      obtain ⟨rfl, hl⟩ := List.cons_prefix_cons.mp h
      rcases ih hl with hl | ⟨rest, rfl, hrest⟩
      · exact .inl (List.cons_prefix_cons.mpr ⟨rfl, hl⟩)
      · exact .inr ⟨rest, rfl, hrest⟩

/-- Behind the first requests for groups, a group is where it was or where it was written. -/
private theorem kept_behind_acknowledged {targets : Targets} {gs : List DeviceGroup}
    (hids : (gs.filterMap newId?).Nodup) {g : DeviceGroup} (hg : g ∈ gs) (hn : (ImsiBlock.labels g.imsis).Nodup)
    (hdata : g.updates g.merge.merged ≠ []) {oldId newId : String} (hid : g.id = some oldId)
    (hnew : g.newId? = some newId) {acknowledged : List SetRequest}
    (hpre : acknowledged <+: gs.flatMap (requestsOf targets)) {tree tree' : Json} (hgs : gs = groups tree)
    (ht : IsTree tree) (ht' : IsTree tree') :
    (∃ final, replay targets.source acknowledged (some tree) = some final ∧ IsTree final ∧
        ∃ entry, (entries final).find? (shows "id" oldId) = some entry ∧ ofJson entry = g) ∨
      ∃ final, replay targets.destination acknowledged (some tree') = some final ∧ CarriedBy g newId final := by
  have hfind := find?_id_of_nodup hids hg hid hnew
  obtain ⟨before, after, rfl⟩ := List.append_of_mem hg
  have hother : ∀ other ∈ before ++ after, ∀ target,
      Untouched targets target (shows "id" oldId) other ∧ Untouched targets target (shows "id" newId) other :=
    fun other ho target => untouched_of_ne hid hnew fun newId' hnew' => newId?_ne_of_nodup hids hnew ho hnew'
  have hrequests : requestsOf targets g = writeRequest targets g newId ::
      (if (removeRequest targets g oldId newId).deletes = [] then [] else [removeRequest targets g oldId newId]) := by
    rw [requestsOf_eq hid hnew, if_neg hdata, List.singleton_append]
  rw [List.flatMap_append, List.flatMap_cons, hrequests, List.cons_append] at hpre
  rcases prefix_append_cons hpre with hpre | ⟨rest, rfl, hrest⟩
  · -- the group has not been reached: its old entry is as it was
    left
    have hmem : ∀ r ∈ acknowledged, ∃ other ∈ before, r ∈ requestsOf targets other :=
      fun r hr => List.mem_flatMap.mp (hpre.subset hr)
    obtain ⟨final, hfinal, htfinal, hfilter, -⟩ := replay_frame targets.source hmem ht
    have hfilter := hfilter _ fun other ho => (hother other (List.mem_append_left _ ho) _).1
    rw [hgs, find?_groups, Option.map_eq_some_iff] at hfind
    obtain ⟨entry, he, hentry⟩ := hfind
    exact ⟨final, hfinal, htfinal, entry, by rw [← List.head?_filter, hfilter, List.head?_filter, he], hentry⟩
  · -- the group has been written, and what follows keeps its new entry
    right
    obtain ⟨tree₁, htree₁, ht₁, -⟩ := replay_flatMap_frame targets targets.destination before ht'
    obtain ⟨tree₂, happly, ht₂, hedits⟩ := applyTo_writeRequest targets newId hdata ht₁
    have hcarried := carriedBy_written hn ht₁ ht₂ hedits
    obtain ⟨final, hfinal, hc⟩ := carriedBy_replay (fun r hr => List.mem_append.mp (hrest.subset hr))
      (fun other ho => (hother other (List.mem_append_right _ ho) _).2) hcarried
    refine ⟨final, ?_, hc⟩
    have hwrite : MemoryStore.step targets.destination (some tree₁) (writeRequest targets g newId) = some tree₂ :=
      step_of_applyTo happly
    rw [replay_append, htree₁, replay_cons, hwrite]
    exact hfinal

/-- A property of a group that every entry has which carries the group is still held. -/
private theorem stillHeld_of_carries {s : MemoryStore} {targets : Targets} {tree tree' : Json}
    {gs existing : List DeviceGroup} (hgets : s.failingGets = []) (hs : s.tree? targets.source = some tree)
    (hw : IsWritten tree gs) (hd : s.tree? targets.destination = some tree') (hw' : IsWritten tree' existing)
    (hids : (gs.filterMap newId?).Nodup) {g : DeviceGroup} (hg : g ∈ gs) (hn : (ImsiBlock.labels g.imsis).Nodup)
    (hdata : g.updates g.merge.merged ≠ []) {oldId newId : String} (hid : g.id = some oldId)
    (hnew : g.newId? = some newId) {P : DeviceGroup → Prop} (hp : P g) (hcarries : ∀ e, Carries g e → P e) :
    StillHeld s targets oldId newId P := by
  have hne : gs ≠ [] := List.ne_nil_of_mem hg
  obtain ⟨acknowledged, hpre, htrees⟩ := exists_replay (gs.flatMap (requestsOf targets)) (fetched targets s)
  unfold StillHeld
  rw [(shippedMigration_of_ne_nil (reads_of_isWritten hgets hs hw hd hw') hne).2]
  rcases kept_behind_acknowledged hids hg hn hdata hid hnew hpre hw.eq_groups hw.isTree hw'.isTree with
    ⟨final, hfinal, ht, entry, he, rfl⟩ | ⟨final, hfinal, ht, entry, he, hc⟩
  · left
    refine entryHolds_of_find? ?_ ht he hp
    rw [htrees, ← hfinal, ← hs]
    rfl
  · right
    refine entryHolds_of_find? ?_ ht he (hcarries _ hc)
    rw [htrees, ← hfinal, ← hd]
    rfl

/-- Whichever Set requests fail, each number and text of a group with a letter in its identifier is still held by its
old entry on the source or by its new entry on the destination. -/
theorem data_survives_failures {s : MemoryStore} (targets : Targets) {tree tree' : Json}
    {gs existing : List DeviceGroup} (hgets : s.failingGets = []) (hs : s.tree? targets.source = some tree)
    (hw : IsWritten tree gs) (hd : s.tree? targets.destination = some tree') (hw' : IsWritten tree' existing)
    (hids : (gs.filterMap newId?).Nodup) (hlabels : ∀ g ∈ gs, (ImsiBlock.labels g.imsis).Nodup) {g : DeviceGroup}
    (hg : g ∈ gs) {oldId : String} (hid : g.id = some oldId) (hletter : Identifier.HasLetter oldId) :
    ∃ newId, Identifier.normalize oldId = .ok newId ∧
      (∀ n, g.CoversNumber n → StillHeld s targets oldId newId (·.CoversNumber n)) ∧
      (∀ t, g.displayName = some t → StillHeld s targets oldId newId (·.displayName = some t)) ∧
      (∀ t, g.description = some t → StillHeld s targets oldId newId (·.description = some t)) ∧
      (∀ t, g.site = some t → StillHeld s targets oldId newId (·.site = some t)) := by
  obtain ⟨newId, hnormal⟩ := Identifier.normalize_isOk_iff.mpr hletter
  have hnew : g.newId? = some newId := newId?_eq_some_iff.mpr ⟨oldId, hid, hnormal⟩
  refine ⟨newId, hnormal, ?_⟩
  by_cases hdata : g.updates g.merge.merged = []
  · obtain ⟨hname, hdescription, hsite, hmerged⟩ := eq_nil_of_updates_eq_nil hdata
    refine ⟨fun n hn => ?_, fun t ht => ?_, fun t ht => ?_, fun t ht => ?_⟩
    · obtain ⟨i, hi, -⟩ := (coversNumber_iff g n).mp hn
      rw [hmerged] at hi
      cases hi
    · cases hname.symm.trans ht
    · cases hdescription.symm.trans ht
    · cases hsite.symm.trans ht
  · have hheld : ∀ P : DeviceGroup → Prop, P g → (∀ e, Carries g e → P e) → StillHeld s targets oldId newId P :=
      fun P => stillHeld_of_carries hgets hs hw hd hw' hids hg (hlabels g hg) hdata hid hnew
    refine ⟨fun n hn => hheld _ hn fun e hc => hc.coversNumber hn, fun t ht => hheld _ ht fun e hc => ?_,
      fun t ht => hheld _ ht fun e hc => ?_, fun t ht => hheld _ ht fun e hc => ?_⟩
    · exact hc.displayName t ht
    · exact hc.description t ht
    · exact hc.site t ht

/-- A run that migrates the sample tree in place and fails at its second Set. -/
theorem sampleTree_survives_failure :
    ∃ newId, Identifier.normalize "starbucks_NewYork" = .ok newId ∧
      StillHeld (sampleStore.failSet 1) ⟨"v2", "v2"⟩ "starbucks_NewYork" newId (·.CoversNumber 250) ∧
      StillHeld (sampleStore.failSet 1) ⟨"v2", "v2"⟩ "starbucks_NewYork" newId
        (·.site = some "starbucks-newyork") := by
  have hw : IsWritten sampleTree (groups sampleTree) := ⟨by decide, by decide, decode_render_of_isTree (by decide)⟩
  obtain ⟨newId, hnormal, hnumbers, -, -, hsite⟩ :=
    data_survives_failures (s := sampleStore.failSet 1) ⟨"v2", "v2"⟩ rfl rfl hw rfl hw (by decide)
      (by decide) (List.mem_cons_self ..) rfl (by decide)
  exact ⟨newId, hnormal, hnumbers 250 ⟨⟨200, 299, "back"⟩, by decide, by decide⟩, hsite _ rfl⟩

end ConfigMigration.DeviceGroup

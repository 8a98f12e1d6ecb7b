import ConfigMigration.Proofs.DeviceGroup.Removing
import ConfigMigration.Proofs.Interval

/-!
# Blocks of a group

What becomes of the blocks of a group when the merged intervals are written into them and the absorbed blocks are
dropped.  The complete blocks that are left are the merged intervals, each in the place of the block that gave it its
label (`isMerged_kept`), and merging them once more finds nothing to merge (`IsMerged.merge_eq`).
-/

namespace ConfigMigration.ImsiBlock

open ConfigMigration.Tree

/-- The block that holds an interval. -/
def ofInterval (i : Interval) : ImsiBlock := { id := some i.label, first := some i.first, last := some i.last }

/-- The intervals of the complete blocks, in their order. -/
def intervals (blocks : List ImsiBlock) : List Interval := blocks.filterMap interval?

/-- The labels of the blocks that have one. -/
def labels (blocks : List ImsiBlock) : List String := blocks.filterMap ImsiBlock.id

/-- The complete blocks of a list are merged intervals, each under its label. -/
structure IsMerged (merged : List Interval) (blocks : List ImsiBlock) : Prop where
  sort_intervals : Interval.sort (intervals blocks) = merged
  find?_label : ∀ i ∈ merged, blocks.find? (fun b => b.id = some i.label) = some (ofInterval i)

/-! ### Intervals of blocks -/

theorem interval?_eq_some_iff {b : ImsiBlock} {i : Interval} :
    b.interval? = some i ↔
      b.id = some i.label ∧ b.first = some i.first ∧ b.last.getD i.first = i.last ∧ i.first ≤ i.last := by
  unfold interval?
  cases hid : b.id with
  | none => simp
  | some label =>
    cases hfirst : b.first with
    | none => simp
    | some first =>
      simp only [Option.bind_eq_bind, Option.bind_some, Option.some.injEq]
      constructor
      · intro h
        split at h
        · rename_i hle
          rw [← Option.some.inj h]
          exact ⟨rfl, rfl, rfl, hle⟩
        · cases h
      · rintro ⟨rfl, rfl, hlast, hle⟩
        rw [hlast, if_pos hle]

theorem id_of_interval? {b : ImsiBlock} {i : Interval} (h : b.interval? = some i) : b.id = some i.label :=
  (interval?_eq_some_iff.mp h).1

theorem interval?_ofInterval {i : Interval} (h : i.first ≤ i.last) : (ofInterval i).interval? = some i :=
  interval?_eq_some_iff.mpr ⟨rfl, rfl, rfl, h⟩

theorem withEnds_of_id {b : ImsiBlock} {i : Interval} (h : b.id = some i.label) : b.withEnds i = ofInterval i := by
  rw [withEnds, h]
  rfl

theorem isComplete_of_mem_intervals {blocks : List ImsiBlock} {i : Interval} (h : i ∈ intervals blocks) :
    i.first ≤ i.last := by
  obtain ⟨b, -, hb⟩ := List.mem_filterMap.mp h
  exact (interval?_eq_some_iff.mp hb).2.2.2

theorem isComplete_of_mem_merged {blocks : List ImsiBlock} {i : Interval}
    (h : i ∈ (Interval.merge (intervals blocks)).merged) : i.first ≤ i.last :=
  Interval.isComplete_of_mem_merged (fun _ hj => isComplete_of_mem_intervals hj) h

theorem intervals_map_ofInterval {l : List Interval} (h : ∀ i ∈ l, i.first ≤ i.last) :
    intervals (l.map ofInterval) = l := by
  unfold intervals
  induction l with
  | nil => rfl
  | cons i l ih =>
    rw [List.forall_mem_cons] at h
    rw [List.map_cons, List.filterMap_cons_some (interval?_ofInterval h.1), ih h.2]

/-! ### Labels -/

theorem labels_cons (b : ImsiBlock) (blocks : List ImsiBlock) :
    labels (b :: blocks) = b.id.toList ++ labels blocks := by
  unfold labels
  cases hb : b.id with
  | none => rw [List.filterMap_cons_none hb]; rfl
  | some label => rw [List.filterMap_cons_some hb]; rfl

theorem mem_labels {label : String} {blocks : List ImsiBlock} :
    label ∈ labels blocks ↔ ∃ b ∈ blocks, b.id = some label := List.mem_filterMap

theorem labels_intervals_sublist (blocks : List ImsiBlock) :
    ((intervals blocks).map Interval.label).Sublist (labels blocks) := by
  induction blocks with
  | nil => exact List.Sublist.refl _
  | cons b blocks ih =>
    rw [labels_cons]
    unfold intervals at ih ⊢
    cases hb : b.interval? with
    | none =>
      rw [List.filterMap_cons_none hb]
      exact ih.trans (List.sublist_append_right _ _)
    | some i =>
      rw [List.filterMap_cons_some hb, id_of_interval? hb]
      exact ih.cons_cons i.label

theorem nodup_labels_intervals {blocks : List ImsiBlock} (h : (labels blocks).Nodup) :
    ((intervals blocks).map Interval.label).Nodup :=
  h.sublist (labels_intervals_sublist blocks)

theorem nodup_labels_of_cons {b : ImsiBlock} {blocks : List ImsiBlock} (h : (labels (b :: blocks)).Nodup) :
    (labels blocks).Nodup := by
  rw [labels_cons] at h
  exact h.sublist (List.sublist_append_right _ _)

theorem not_mem_labels_of_cons {b : ImsiBlock} {blocks : List ImsiBlock} (h : (labels (b :: blocks)).Nodup)
    {label : String} (hb : b.id = some label) : label ∉ labels blocks := by
  rw [labels_cons, hb] at h
  exact (List.nodup_cons.mp h).1

/-- A label tells its block. -/
theorem eq_of_id_eq {blocks : List ImsiBlock} (h : (labels blocks).Nodup) {b c : ImsiBlock} (hb : b ∈ blocks)
    (hc : c ∈ blocks) {label : String} (hbl : b.id = some label) (hcl : c.id = some label) : b = c := by
  induction blocks with
  | nil => cases hb
  | cons d blocks ih =>
    rcases List.mem_cons.mp hb with rfl | hb'
    · rcases List.mem_cons.mp hc with rfl | hc'
      · rfl
      · exact absurd (mem_labels.mpr ⟨c, hc', hcl⟩) (not_mem_labels_of_cons h hbl)
    · rcases List.mem_cons.mp hc with rfl | hc'
      · exact absurd (mem_labels.mpr ⟨b, hb', hbl⟩) (not_mem_labels_of_cons h hcl)
      · exact ih (nodup_labels_of_cons h) hb' hc'

/-! ### Writing -/

private theorem id_withEnds {b : ImsiBlock} {i : Interval} :
    decide (b.id = some i.label) = true → decide ((b.withEnds i).id = some i.label) = true := fun h => h

private theorem find?_writeEnds_of_not_mem {merged : List Interval} {label : String}
    (h : label ∉ merged.map Interval.label) (blocks : List ImsiBlock) :
    (writeEnds merged blocks).find? (fun b => b.id = some label) = blocks.find? (fun b => b.id = some label) := by
  unfold writeEnds
  induction merged generalizing blocks with
  | nil => rfl
  | cons i merged ih =>
    rw [List.map_cons, List.mem_cons, not_or] at h
    rw [List.foldl_cons, ih h.2]
    refine find?_upsert_of_disjoint ?_ (decide_eq_true rfl) fun b => id_withEnds
    intro b hb
    rw [decide_eq_true_eq] at hb
    rw [hb, decide_eq_false_iff_not, Option.some.injEq]
    exact fun heq => h.1 heq.symm

/-- The first block under the label of a written interval holds the interval. -/
theorem find?_writeEnds {merged : List Interval} (hn : (merged.map Interval.label).Nodup) {i : Interval}
    (hi : i ∈ merged) (blocks : List ImsiBlock) :
    (writeEnds merged blocks).find? (fun b => b.id = some i.label) = some (ofInterval i) := by
  induction merged generalizing blocks with
  | nil => cases hi
  | cons j merged ih =>
    rw [List.map_cons, List.nodup_cons] at hn
    rcases List.mem_cons.mp hi with rfl | hi
    · change (writeEnds merged (upsert _ _ _ blocks)).find? _ = _
      rw [find?_writeEnds_of_not_mem hn.1,
        find?_upsert_self (p := fun b : ImsiBlock => b.id = some i.label) (decide_eq_true rfl) fun b => id_withEnds]
      refine congrArg some (withEnds_of_id ?_)
      cases hb : blocks.find? (fun b => b.id = some i.label) with
      | none => rfl
      | some b => simpa using List.find?_some hb
    · exact ih hn.2 hi _

/-- Intervals whose labels are new are put at the end. -/
theorem writeEnds_eq_append {merged : List Interval} (hn : (merged.map Interval.label).Nodup)
    {blocks : List ImsiBlock} (h : ∀ i ∈ merged, i.label ∉ labels blocks) :
    writeEnds merged blocks = blocks ++ merged.map ofInterval := by
  unfold writeEnds
  refine foldl_upsert_eq_append ?_ ?_
  · intro i hi b hb
    exact decide_eq_false fun hid => h i hi (mem_labels.mpr ⟨b, hb, hid⟩)
  · refine (List.pairwise_map.mp hn).imp fun hne => decide_eq_false fun hid => ?_
    exact hne (Option.some.inj hid)

private theorem upsert_eq_map {blocks : List ImsiBlock} (hn : (labels blocks).Nodup) {label : String}
    (hl : label ∈ labels blocks) (f : ImsiBlock → ImsiBlock) (fresh : ImsiBlock) :
    upsert (fun b => b.id = some label) f fresh blocks =
      blocks.map fun b => if b.id = some label then f b else b := by
  induction blocks with
  | nil => cases hl
  | cons b blocks ih =>
    rw [List.map_cons]
    by_cases hb : b.id = some label
    · have hrest : blocks.map (fun b => if b.id = some label then f b else b) = blocks := by
        refine (List.map_congr_left fun c hc => if_neg fun hcl => ?_).trans (List.map_id _)
        exact not_mem_labels_of_cons hn hb (mem_labels.mpr ⟨c, hc, hcl⟩)
      rw [upsert, if_pos (decide_eq_true hb), if_pos hb, hrest]
    · have hl' : label ∈ labels blocks := by
        obtain ⟨c, hc, hcl⟩ := mem_labels.mp hl
        rcases List.mem_cons.mp hc with rfl | hc
        · exact absurd hcl hb
        · exact mem_labels.mpr ⟨c, hc, hcl⟩
      rw [upsert, if_neg (by simpa using hb), if_neg hb, ih (nodup_labels_of_cons hn) hl']

/-- A block behind a merge: with the ends of the merged interval under its label, if there is one. -/
def rewritten (merged : List Interval) (b : ImsiBlock) : ImsiBlock :=
  match b.id.bind fun label => merged.find? (·.label = label) with
  | some i => b.withEnds i
  | none => b

theorem rewritten_of_find? {merged : List Interval} {b : ImsiBlock} {label : String} (hb : b.id = some label)
    {i : Interval} (hi : merged.find? (·.label = label) = some i) : b.rewritten merged = ofInterval i := by
  have hlabel : i.label = label := by simpa using List.find?_some hi
  unfold rewritten
  simp only [hb, Option.bind_some, hi]
  exact withEnds_of_id (hb.trans (congrArg some hlabel.symm))

theorem rewritten_of_forall_ne {merged : List Interval} {b : ImsiBlock} (h : ∀ i ∈ merged, b.id ≠ some i.label) :
    b.rewritten merged = b := by
  unfold rewritten
  cases hb : b.id with
  | none => rfl
  | some label =>
    have hnone : merged.find? (·.label = label) = none := by
      rw [List.find?_eq_none]
      intro i hi hlabel
      exact h i hi (hb.trans (congrArg some (by simpa using hlabel : i.label = label).symm))
    simp only [Option.bind_some, hnone]

theorem writeEnds_eq_map {merged : List Interval} (hm : (merged.map Interval.label).Nodup) {blocks : List ImsiBlock}
    (hn : (labels blocks).Nodup) (h : ∀ i ∈ merged, i.label ∈ labels blocks) :
    writeEnds merged blocks = blocks.map (rewritten merged) := by
  induction merged generalizing blocks with
  | nil => exact (List.map_id _).symm.trans (List.map_congr_left fun b _ => (rewritten_of_forall_ne (by simp)).symm)
  | cons i merged ih =>
    rw [List.map_cons, List.nodup_cons] at hm
    rw [List.forall_mem_cons] at h
    have hlabels : labels (blocks.map fun b => if b.id = some i.label then b.withEnds i else b) = labels blocks := by
      unfold labels
      rw [List.filterMap_map]
      refine List.filterMap_congr fun b _ => ?_
      rw [Function.comp_apply]
      split <;> rfl
    change writeEnds merged (upsert _ _ _ blocks) = _
    rw [upsert_eq_map hn h.1, ih hm.2 (by rwa [hlabels]) (by rw [hlabels]; exact h.2), List.map_map]
    refine List.map_congr_left fun b _ => ?_
    rw [Function.comp_apply]
    split
    · rename_i hb
      have hne : ∀ j ∈ merged, (b.withEnds i).id ≠ some j.label := by
        intro j hj heq
        have : i.label = j.label := Option.some.inj (hb.symm.trans heq)
        exact hm.1 (this ▸ List.mem_map_of_mem hj)
      rw [rewritten_of_forall_ne hne, rewritten_of_find? hb (i := i) (by simp), withEnds_of_id hb]
    · rename_i hb
      unfold rewritten
      cases hid : b.id with
      | none => rfl
      | some label =>
        have hne : ¬i.label = label := fun heq => hb (hid.trans (congrArg some heq.symm))
        simp [hne]

/-! ### Blocks that stay -/

/-- The labels of the blocks that are part of another one after a merge. -/
def absorbed (m : Interval.Merge) : List String := m.superseded.filter fun label => !m.merged.any (·.label = label)

/-- The blocks of a group that stays where it is, with its intervals merged. -/
def kept (m : Interval.Merge) (blocks : List ImsiBlock) : List ImsiBlock :=
  (writeEnds m.merged blocks).filter fun b => !(absorbed m).any fun label => b.id = some label

theorem not_absorbed_of_mem {m : Interval.Merge} {i : Interval} (hi : i ∈ m.merged) :
    i.label ∉ absorbed m := by
  intro h
  have := (List.mem_filter.mp h).2
  simp only [Bool.not_eq_true', List.any_eq_false, decide_eq_true_eq] at this
  exact this i hi rfl

theorem any_absorbed_eq_false {m : Interval.Merge} {i : Interval} (hi : i ∈ m.merged) {b : ImsiBlock}
    (hb : b.id = some i.label) : (absorbed m).any (fun label => decide (b.id = some label)) = false := by
  rw [List.any_eq_false]
  intro label hlabel heq
  have hsame : i.label = label := Option.some.inj (hb.symm.trans (of_decide_eq_true heq))
  exact not_absorbed_of_mem hi (hsame ▸ hlabel)

/-- The blocks of merged intervals are not dropped. -/
theorem find?_filter_absorbed {m : Interval.Merge} {i : Interval} (hi : i ∈ m.merged) (blocks : List ImsiBlock) :
    (blocks.filter fun b => !(absorbed m).any fun label => b.id = some label).find? (fun b => b.id = some i.label) =
      blocks.find? fun b => b.id = some i.label := by
  rw [List.find?_filter]
  congr 1
  funext b
  by_cases hb : b.id = some i.label
  · rw [any_absorbed_eq_false hi hb]
    simp
  · simp [hb]

private theorem exists_block_of_mem_merged {blocks : List ImsiBlock} {i : Interval}
    (hi : i ∈ (Interval.merge (intervals blocks)).merged) :
    ∃ b ∈ blocks, ∃ j, b.interval? = some j ∧ j.label = i.label := by
  obtain ⟨j, hj, -, hlabel⟩ := Interval.exists_origin hi
  obtain ⟨b, hb, hbj⟩ := List.mem_filterMap.mp hj
  exact ⟨b, hb, j, hbj, hlabel⟩

/-- An incomplete block shares no label with a merged interval. -/
private theorem id_ne_of_interval?_eq_none {blocks : List ImsiBlock} (hn : (labels blocks).Nodup) {b : ImsiBlock}
    (hb : b ∈ blocks) (hnone : b.interval? = none) :
    ∀ i ∈ (Interval.merge (intervals blocks)).merged, b.id ≠ some i.label := by
  intro i hi hid
  obtain ⟨c, hc, j, hcj, hlabel⟩ := exists_block_of_mem_merged hi
  rw [eq_of_id_eq hn hb hc hid (hlabel ▸ id_of_interval? hcj), hcj] at hnone
  cases hnone

/-- A complete block without a replacement is absorbed. -/
private theorem any_absorbed_of_replacement?_eq_none {blocks : List ImsiBlock} {b : ImsiBlock} (hb : b ∈ blocks)
    {j : Interval} (hbj : b.interval? = some j)
    (hnone : (Interval.merge (intervals blocks)).replacement? j = none) :
    (∀ i ∈ (Interval.merge (intervals blocks)).merged, b.id ≠ some i.label) ∧
      (absorbed (Interval.merge (intervals blocks))).any (fun label => decide (b.id = some label)) = true := by
  have hid := id_of_interval? hbj
  have hne : ∀ i ∈ (Interval.merge (intervals blocks)).merged, b.id ≠ some i.label := by
    intro i hi heq
    have hlabel : i.label = j.label := Option.some.inj (heq.symm.trans hid)
    exact absurd hlabel (by simpa using List.find?_eq_none.mp hnone i hi)
  have hj : j ∈ intervals blocks := List.mem_filterMap.mpr ⟨b, hb, hbj⟩
  have hsuperseded : j.label ∈ (Interval.merge (intervals blocks)).superseded :=
    (Interval.mem_merged_or_superseded hj).resolve_left fun hmj => hne j hmj hid
  refine ⟨hne, List.any_eq_true.mpr ⟨j.label, List.mem_filter.mpr ⟨hsuperseded, ?_⟩, decide_eq_true hid⟩⟩
  simp only [Bool.not_eq_true', List.any_eq_false, decide_eq_true_eq]
  exact fun i hi heq => hne i hi (hid.trans (congrArg some heq.symm))

/-- The intervals of the blocks that stay are the replacements of the intervals. -/
theorem intervals_kept {blocks : List ImsiBlock} (hn : (labels blocks).Nodup) :
    intervals (kept (Interval.merge (intervals blocks)) blocks) =
      (intervals blocks).filterMap (Interval.merge (intervals blocks)).replacement? := by
  have hm := Interval.nodup_labels_merged (nodup_labels_intervals hn)
  have hmem : ∀ i ∈ (Interval.merge (intervals blocks)).merged, i.label ∈ labels blocks := by
    intro i hi
    obtain ⟨b, hb, j, hbj, hlabel⟩ := exists_block_of_mem_merged hi
    exact mem_labels.mpr ⟨b, hb, hlabel ▸ id_of_interval? hbj⟩
  unfold kept
  rw [writeEnds_eq_map hm hn hmem]
  change List.filterMap interval? (List.filter _ (blocks.map _)) = List.filterMap _ (blocks.filterMap interval?)
  rw [List.filterMap_filter, List.filterMap_map, List.filterMap_filterMap]
  refine List.filterMap_congr fun b hb => ?_
  rw [Function.comp_apply]
  cases hbj : b.interval? with
  | none =>
    -- an incomplete block stays as it is
    rw [rewritten_of_forall_ne (id_ne_of_interval?_eq_none hn hb hbj), hbj]
    split <;> rfl
  | some j =>
    rw [Option.bind_some]
    cases hi : (Interval.merge (intervals blocks)).replacement? j with
    | some i =>
      have hmi := List.mem_of_find?_eq_some hi
      rw [rewritten_of_find? (id_of_interval? hbj) hi, any_absorbed_eq_false hmi rfl,
        interval?_ofInterval (isComplete_of_mem_merged hmi)]
      rfl
    | none =>
      obtain ⟨hne, habsorbed⟩ := any_absorbed_of_replacement?_eq_none hb hbj hi
      rw [rewritten_of_forall_ne hne, habsorbed]
      rfl

/-- The blocks that stay are merged. -/
theorem isMerged_kept {blocks : List ImsiBlock} (hn : (labels blocks).Nodup) :
    IsMerged (Interval.merge (intervals blocks)).merged (kept (Interval.merge (intervals blocks)) blocks) where
  sort_intervals := by
    rw [intervals_kept hn, Interval.sort_filterMap_replacement? (nodup_labels_intervals hn)]
  find?_label i hi := by
    have hm := Interval.nodup_labels_merged (nodup_labels_intervals hn)
    rw [kept, find?_filter_absorbed hi, find?_writeEnds hm hi]

theorem isMerged_writeEnds_nil {blocks : List ImsiBlock} (hn : ((intervals blocks).map Interval.label).Nodup) :
    IsMerged (Interval.merge (intervals blocks)).merged
      (writeEnds (Interval.merge (intervals blocks)).merged []) where
  sort_intervals := by
    rw [writeEnds_eq_append (Interval.nodup_labels_merged hn) (by simp [labels]), List.nil_append,
      intervals_map_ofInterval fun i hi => isComplete_of_mem_merged hi,
      Interval.sort_of_isSorted (Interval.isSorted_merged _)]
  find?_label _ hi := find?_writeEnds (Interval.nodup_labels_merged hn) hi []

/-- Of merged blocks nothing is left to merge. -/
theorem IsMerged.merge_eq {l : List Interval} {blocks : List ImsiBlock}
    (h : IsMerged (Interval.merge l).merged blocks) :
    Interval.merge (intervals blocks) = ⟨(Interval.merge l).merged, []⟩ := by
  have hsort := Interval.sort_of_isSorted (Interval.isSorted_merged l)
  rw [← Interval.merge_merged l]
  exact Interval.merge_congr (h.sort_intervals.trans hsort.symm)

end ConfigMigration.ImsiBlock

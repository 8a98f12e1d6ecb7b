import ConfigMigration.Proofs.Interval.Cover

/-!
# Superseded intervals

Who stores intervals follows a merge by creating the changed intervals and deleting the ones whose labels are
superseded.  For complete, disjoint intervals with distinct labels this leaves exactly the merged intervals
(`superseded_give_way_to_changed`).

The labels, the ends and the merged list are made apart from each other, and what ties them together is the
neighbours: an interval has an adjacent one if and only if it is not among the merged intervals (`mem_merged_iff`), if
and only if its label is superseded (`label_mem_superseded_iff`).
-/

namespace ConfigMigration.Interval

/-- Whether an interval lies inside another one. -/
def IsWithin (i j : Interval) : Prop := j.first ≤ i.first ∧ i.last ≤ j.last

instance (i j : Interval) : Decidable (i.IsWithin j) :=
  inferInstanceAs (Decidable (_ ∧ _))

/-- Whether an interval starts one past the end of one of the intervals, or ends one before the start of one. -/
def IsAdjacent (l : List Interval) (i : Interval) : Prop := ∃ j ∈ l, i.FollowedBy j ∨ j.FollowedBy i

instance (l : List Interval) (i : Interval) : Decidable (IsAdjacent l i) :=
  inferInstanceAs (Decidable (∃ _, _))

variable {l : List Interval}

/-! ### Neighbours -/

/-- The number behind an interval is covered only by an interval that starts there. -/
private theorem followedBy_of_covers_succ (hdisjoint : l.Pairwise IsDisjoint) {i j : Interval}
    (hi : i ∈ l) (hcomplete : i.first ≤ i.last) (hj : j ∈ l) {n : UInt64} (hn : n.toNat = i.last.toNat + 1)
    (hjn : j.Covers n) : i.FollowedBy j := by
  refine Decidable.byContradiction fun hnot => ?_
  have hjlast : j.Covers i.last := by
    unfold FollowedBy at hnot
    unfold Covers at hjn ⊢
    simp only [UInt64.le_iff_toNat_le] at hjn ⊢
    omega
  have heq : i = j := eq_of_covers hdisjoint hi hj ⟨hcomplete, UInt64.le_refl _⟩ hjlast
  rw [← heq] at hjn
  have hle := UInt64.le_iff_toNat_le.mp hjn.2
  omega

/-- The number in front of an interval is covered only by an interval that ends there. -/
private theorem followedBy_of_covers_pred (hdisjoint : l.Pairwise IsDisjoint) {i j : Interval}
    (hi : i ∈ l) (hcomplete : i.first ≤ i.last) (hj : j ∈ l) {n : UInt64} (hn : n.toNat + 1 = i.first.toNat)
    (hjn : j.Covers n) : j.FollowedBy i := by
  refine Decidable.byContradiction fun hnot => ?_
  have hjfirst : j.Covers i.first := by
    unfold FollowedBy at hnot
    unfold Covers at hjn ⊢
    simp only [UInt64.le_iff_toNat_le] at hjn ⊢
    omega
  have heq : i = j := eq_of_covers hdisjoint hi hj ⟨UInt64.le_refl _, hcomplete⟩ hjfirst
  rw [← heq] at hjn
  have hle := UInt64.le_iff_toNat_le.mp hjn.1
  omega

/-- A merged interval with the ends of one of the intervals is this interval. -/
theorem eq_of_sameBounds (h : ∀ i ∈ l, i.first ≤ i.last) (hdisjoint : l.Pairwise IsDisjoint) {i j : Interval}
    (hi : i ∈ l) (hj : j ∈ (merge l).merged) (hbounds : i.SameBounds j) : i = j := by
  obtain ⟨k, hk, hfirst, hlabel⟩ := exists_origin hj
  have heq : i = k := eq_of_first_eq h hdisjoint hi hk (hbounds.1.trans hfirst.symm)
  rw [← heq] at hlabel
  cases i
  cases j
  obtain ⟨rfl, rfl⟩ := hbounds
  cases hlabel
  rfl

/-- Each interval lies inside a merged one. -/
theorem exists_isWithin_merged (h : ∀ i ∈ l, i.first ≤ i.last) (hdisjoint : l.Pairwise IsDisjoint) {i : Interval}
    (hi : i ∈ l) : ∃ k ∈ (merge l).merged, i.IsWithin k := by
  have hreduced := isReduced_merged h hdisjoint
  have hfirst : i.Covers i.first := ⟨UInt64.le_refl _, h i hi⟩
  have hlast : i.Covers i.last := ⟨h i hi, UInt64.le_refl _⟩
  obtain ⟨k, hk, hkfirst⟩ := (exists_covers_merge_iff h i.first).mpr ⟨i, hi, hfirst⟩
  have hcovered : ∀ n, i.Covers n → ∃ k ∈ (merge l).merged, k.Covers n :=
    fun n hn => (exists_covers_merge_iff h n).mpr ⟨i, hi, hn⟩
  have hklast : k.Covers i.last := hreduced.covers_of_covers hcovered hk hkfirst hfirst hlast
  exact ⟨k, hk, hkfirst.1, hklast.2⟩

theorem not_isAdjacent_of_mem_merged (h : ∀ i ∈ l, i.first ≤ i.last) (hdisjoint : l.Pairwise IsDisjoint)
    {i : Interval} (hi : i ∈ (merge l).merged) : ¬IsAdjacent l i := by
  have hreduced := isReduced_merged h hdisjoint
  rintro ⟨j, hj, hfollow⟩
  obtain ⟨k, hk, hjk⟩ := exists_isWithin_merged h hdisjoint hj
  have hcomplete := h j hj
  rcases hfollow with hij | hji
  · -- the merged interval around `j` covers the number behind `i`
    refine hreduced.not_covers_succ_last hi hk hij ⟨hjk.1, ?_⟩
    exact UInt64.le_trans hcomplete hjk.2
  · -- the merged interval around `j` ends where `j` does, or it overlaps `i`
    by_cases hlast : k.last = j.last
    · refine hreduced.apart k hk i hi ?_
      unfold FollowedBy at hji ⊢
      rwa [hlast]
    · have hki : k.Covers i.first := by
        unfold IsWithin at hjk
        unfold FollowedBy at hji
        unfold Covers
        rw [← UInt64.toNat_inj] at hlast
        simp only [UInt64.le_iff_toNat_le] at hjk hcomplete ⊢
        omega
      have heq := hreduced.eq_of_covers hk hi hki (hreduced.covers_first hi)
      rw [heq] at hjk
      unfold IsWithin at hjk
      unfold FollowedBy at hji
      simp only [UInt64.le_iff_toNat_le] at hjk hcomplete
      omega

/-- An interval stays as it is if and only if none of the others is adjacent to it. -/
theorem mem_merged_iff (h : ∀ i ∈ l, i.first ≤ i.last) (hdisjoint : l.Pairwise IsDisjoint) {i : Interval}
    (hi : i ∈ l) : i ∈ (merge l).merged ↔ ¬IsAdjacent l i := by
  refine ⟨not_isAdjacent_of_mem_merged h hdisjoint, fun hnot => Decidable.byContradiction fun hmem => hnot ?_⟩
  obtain ⟨k, hk, hik⟩ := exists_isWithin_merged h hdisjoint hi
  have hcovered : ∀ n, k.Covers n → ∃ j ∈ l, j.Covers n := fun n hn => (exists_covers_merge_iff h n).mp ⟨k, hk, hn⟩
  have hcomplete := h i hi
  have hbounds : ¬i.SameBounds k := fun hbounds => hmem (eq_of_sameBounds h hdisjoint hi hk hbounds ▸ hk)
  unfold SameBounds at hbounds
  rw [← UInt64.toNat_inj, ← UInt64.toNat_inj] at hbounds
  unfold IsWithin at hik
  simp only [UInt64.le_iff_toNat_le] at hik hcomplete
  -- `k` is larger than `i`, and reaches over its end or its start to a number that another interval covers
  by_cases hlast : i.last.toNat < k.last.toNat
  · have hn : (UInt64.ofNat (i.last.toNat + 1)).toNat = i.last.toNat + 1 :=
      UInt64.toNat_ofNat_of_lt (Nat.lt_of_le_of_lt hlast k.last.toNat_lt)
    have hkn : k.Covers (UInt64.ofNat (i.last.toNat + 1)) := by
      unfold Covers
      simp only [UInt64.le_iff_toNat_le, hn]
      omega
    obtain ⟨j, hj, hjn⟩ := hcovered _ hkn
    exact ⟨j, hj, .inl (followedBy_of_covers_succ hdisjoint hi (h i hi) hj hn hjn)⟩
  · have hn : (UInt64.ofNat (i.first.toNat - 1)).toNat = i.first.toNat - 1 :=
      UInt64.toNat_ofNat_of_lt (Nat.lt_of_le_of_lt (Nat.sub_le _ _) i.first.toNat_lt)
    have hkn : k.Covers (UInt64.ofNat (i.first.toNat - 1)) := by
      unfold Covers
      simp only [UInt64.le_iff_toNat_le, hn]
      omega
    obtain ⟨j, hj, hjn⟩ := hcovered _ hkn
    exact ⟨j, hj, .inr (followedBy_of_covers_pred hdisjoint hi (h i hi) hj (by omega) hjn)⟩

/-! ### Labels -/

private theorem nodup_addLabel {labels : List String} (h : labels.Nodup) (label : String) :
    (addLabel labels label).Nodup := by
  unfold addLabel
  split
  · exact h
  · rename_i hnot
    rw [← List.concat_eq_append]
    exact h.concat hnot

private theorem nodup_superseded_mergeInto (current : Interval) {superseded : List String} (h : superseded.Nodup)
    (l : List Interval) : (mergeInto current superseded l).superseded.Nodup := by
  induction l generalizing current superseded with
  | nil => exact h
  | cons i l ih =>
    unfold mergeInto
    split
    · exact ih _ (nodup_addLabel (nodup_addLabel h _) _)
    · exact ih i h

/-- No label is superseded twice. -/
theorem nodup_superseded (l : List Interval) : (merge l).superseded.Nodup := by
  unfold merge
  split
  · exact List.nodup_nil
  · exact nodup_superseded_mergeInto _ List.nodup_nil _

private theorem label_mem_of_mem_merged_mergeInto {current k : Interval} {superseded : List String}
    {l : List Interval} (hk : k ∈ (mergeInto current superseded l).merged) : k.label ∈ (current :: l).map label := by
  have hmem := (merged_mergeInto_sublist current superseded l).subset (List.mem_map_of_mem hk)
  obtain ⟨j, hj, heq⟩ := List.mem_map.mp hmem
  rw [Prod.mk.injEq] at heq
  exact List.mem_map.mpr ⟨j, hj, heq.2⟩

/-- What `current` is merged into reaches at least as far. -/
private theorem last_le_of_mem_mergeInto (current : Interval) {k : Interval} {superseded : List String}
    {l : List Interval} (h : ∀ i ∈ l, i.first ≤ i.last) (hlabel : current.label ∉ l.map label)
    (hk : k ∈ (mergeInto current superseded l).merged) (hkl : k.label = current.label) : current.last ≤ k.last := by
  induction l generalizing current superseded with
  | nil =>
    rw [mergeInto, List.mem_singleton] at hk
    rw [hk]
    exact UInt64.le_refl _
  | cons i l ih =>
    rw [List.forall_mem_cons] at h
    unfold mergeInto at hk
    split at hk
    · rename_i hfollow
      have hrest : current.label ∉ l.map label := fun hmem => hlabel (List.mem_cons_of_mem _ hmem)
      have hle : i.last ≤ k.last := ih { current with last := i.last } h.2 hrest hk hkl
      have hi := h.1
      unfold FollowedBy at hfollow
      simp only [UInt64.le_iff_toNat_le] at hle hi ⊢
      omega
    · rcases List.mem_cons.mp hk with rfl | hk
      · exact UInt64.le_refl _
      · exact absurd (hkl ▸ label_mem_of_mem_merged_mergeInto hk) hlabel

/-- An interval whose label is put among the superseded ones is no longer there: it has grown, or been absorbed. -/
private theorem not_mem_merged_mergeInto {current i : Interval} {superseded : List String} {l : List Interval}
    (h : ∀ i ∈ l, i.first ≤ i.last) (hn : ((current :: l).map label).Nodup) (hi : i ∈ current :: l)
    (hold : i.label ∉ superseded) (hnew : i.label ∈ (mergeInto current superseded l).superseded) :
    i ∉ (mergeInto current superseded l).merged := by
  induction l generalizing current superseded with
  | nil => exact absurd hnew hold
  | cons j l ih =>
    rw [List.map_cons, List.nodup_cons] at hn
    obtain ⟨hcurrent, hl⟩ := hn
    rw [List.forall_mem_cons] at h
    unfold mergeInto at hnew ⊢
    split at hnew
    · rename_i hfollow
      rw [if_pos hfollow]
      rw [List.map_cons, List.mem_cons, not_or] at hcurrent
      rw [List.map_cons, List.nodup_cons] at hl
      intro hmem
      rcases List.mem_cons.mp hi with rfl | hi
      · -- the interval has grown by the one that follows it
        have hle : j.last ≤ i.last := last_le_of_mem_mergeInto { i with last := j.last } h.2 hcurrent.2 hmem rfl
        have hcomplete := h.1
        unfold FollowedBy at hfollow
        simp only [UInt64.le_iff_toNat_le] at hle hcomplete
        omega
      · rcases List.mem_cons.mp hi with rfl | hi
        · -- the interval has been absorbed
          rcases List.mem_cons.mp (label_mem_of_mem_merged_mergeInto hmem) with heq | hmem
          · exact hcurrent.1 heq.symm
          · exact hl.1 hmem
        · have hnel : i.label ∈ l.map label := List.mem_map_of_mem hi
          refine ih h.2 ?_ (List.mem_cons_of_mem _ hi) ?_ hnew hmem
          · rw [List.map_cons, List.nodup_cons]
            exact ⟨hcurrent.2, hl.2⟩
          · rw [mem_addLabel, mem_addLabel, not_or, not_or]
            exact ⟨⟨hold, fun heq => hcurrent.2 (heq ▸ hnel)⟩, fun heq => hl.1 (heq ▸ hnel)⟩
    · rename_i hfollow
      rw [if_neg hfollow]
      intro hmem
      rcases List.mem_cons.mp hi with rfl | hi
      · exact hcurrent ((mem_of_mem_superseded_mergeInto hnew).resolve_left hold)
      · rcases List.mem_cons.mp hmem with heq | hmem
        · exact hcurrent (heq ▸ List.mem_map_of_mem hi)
        · exact ih h.2 hl hi hold hnew hmem

/-- A label is superseded if and only if its interval is no longer there. -/
theorem label_mem_superseded_iff (h : ∀ i ∈ l, i.first ≤ i.last) (hlabels : (l.map label).Nodup) {i : Interval}
    (hi : i ∈ l) : i.label ∈ (merge l).superseded ↔ i ∉ (merge l).merged := by
  refine ⟨fun hlabel => ?_, (mem_merged_or_superseded hi).resolve_left⟩
  have hn : ((sort l).map label).Nodup := ((sort_perm l).map label).nodup_iff.mpr hlabels
  have hsort := mem_sort.mpr hi
  have hcomplete : ∀ i ∈ sort l, i.first ≤ i.last := fun i hi => h i (mem_sort.mp hi)
  unfold merge at hlabel ⊢
  cases hs : sort l with
  | nil =>
    rw [hs] at hsort
    cases hsort
  | cons j rest =>
    simp only [hs] at hlabel ⊢
    rw [hs] at hn hsort hcomplete
    rw [List.forall_mem_cons] at hcomplete
    exact not_mem_merged_mergeInto hcomplete.2 hn hsort List.not_mem_nil hlabel

theorem isSuperseded_iff (h : ∀ i ∈ l, i.first ≤ i.last) (hlabels : (l.map label).Nodup) {i : Interval} (hi : i ∈ l) :
    (merge l).isSuperseded i.label = true ↔ i ∉ (merge l).merged := by
  rw [Merge.isSuperseded, decide_eq_true_eq, label_mem_superseded_iff h hlabels hi]

theorem isSuperseded_eq_false_iff (h : ∀ i ∈ l, i.first ≤ i.last) (hlabels : (l.map label).Nodup) {i : Interval}
    (hi : i ∈ l) : (merge l).isSuperseded i.label = false ↔ i ∈ (merge l).merged := by
  rw [← Bool.not_eq_true, isSuperseded_iff h hlabels hi, not_not]

/-- The superseded labels are those of the intervals with an adjacent one. -/
theorem superseded_perm (h : ∀ i ∈ l, i.first ≤ i.last) (hdisjoint : l.Pairwise IsDisjoint)
    (hlabels : (l.map label).Nodup) : (merge l).superseded.Perm ((l.filter (IsAdjacent l ·)).map label) := by
  have hright : ((l.filter (IsAdjacent l ·)).map label).Nodup := hlabels.sublist (List.filter_sublist.map label)
  have hadjacent : ∀ i ∈ l, i.label ∈ (merge l).superseded ↔ IsAdjacent l i := by
    intro i hi
    rw [label_mem_superseded_iff h hlabels hi, mem_merged_iff h hdisjoint hi, not_not]
  rw [List.perm_ext_iff_of_nodup (nodup_superseded l) hright]
  intro name
  rw [List.mem_map]
  constructor
  · intro hname
    obtain ⟨i, hi, rfl⟩ := exists_of_mem_superseded hname
    exact ⟨i, List.mem_filter.mpr ⟨hi, decide_eq_true ((hadjacent i hi).mp hname)⟩, rfl⟩
  · rintro ⟨i, hi, rfl⟩
    obtain ⟨hi, hdecide⟩ := List.mem_filter.mp hi
    exact (hadjacent i hi).mpr (of_decide_eq_true hdecide)

/-! ### Following a merge -/

theorem mem_changed_iff (h : ∀ i ∈ l, i.first ≤ i.last) (hdisjoint : l.Pairwise IsDisjoint) {j : Interval} :
    j ∈ (merge l).changed l ↔ j ∈ (merge l).merged ∧ j ∉ l := by
  rw [Merge.changed, List.mem_filter, Bool.not_eq_true', List.any_eq_false]
  simp only [decide_eq_true_eq]
  refine and_congr_right fun hj => ⟨fun hnone hmem => hnone j hmem ⟨rfl, rfl⟩, fun hnot i hi hbounds => ?_⟩
  rw [eq_of_sameBounds h hdisjoint hi hj hbounds] at hi
  exact hnot hi

/-- The intervals that stay and the changed ones are the merged intervals. -/
theorem filter_append_changed_perm (h : ∀ i ∈ l, i.first ≤ i.last) (hdisjoint : l.Pairwise IsDisjoint)
    (hlabels : (l.map label).Nodup) :
    ((l.filter fun i => !(merge l).isSuperseded i.label) ++ (merge l).changed l).Perm (merge l).merged := by
  have hmerged : (merge l).merged.Nodup := (nodup_labels_merged hlabels).of_map
  have hleft : ((l.filter fun i => !(merge l).isSuperseded i.label) ++ (merge l).changed l).Nodup := by
    refine List.nodup_append.mpr ⟨hlabels.of_map.filter _, hmerged.filter _, ?_⟩
    rintro i hi j hj rfl
    exact ((mem_changed_iff h hdisjoint).mp hj).2 (List.mem_filter.mp hi).1
  rw [List.perm_ext_iff_of_nodup hleft hmerged]
  intro i
  rw [List.mem_append, List.mem_filter, mem_changed_iff h hdisjoint, Bool.not_eq_true']
  by_cases hi : i ∈ l
  · simp [hi, isSuperseded_eq_false_iff h hlabels hi]
  · simp [hi]

/-- No two merged intervals have an interval inside them. -/
theorem countP_isWithin_merged_le (h : ∀ i ∈ l, i.first ≤ i.last) (hdisjoint : l.Pairwise IsDisjoint) {i : Interval}
    (hi : i ∈ l) : (merge l).merged.countP (i.IsWithin ·) ≤ 1 := by
  calc (merge l).merged.countP (i.IsWithin ·)
      ≤ (merge l).merged.countP (Covers · i.first) := by
        refine List.countP_mono_left fun j _ hij => ?_
        rw [decide_eq_true_eq] at hij ⊢
        exact ⟨hij.1, UInt64.le_trans (h i hi) hij.2⟩
    _ ≤ 1 := pairwise_isDisjoint_iff.mp (pairwise_isDisjoint_merged h hdisjoint) i.first

/-- An interval that does not stay lies inside exactly one changed interval. -/
theorem countP_isWithin_changed (h : ∀ i ∈ l, i.first ≤ i.last) (hdisjoint : l.Pairwise IsDisjoint) {i : Interval}
    (hi : i ∈ l) (hmem : i ∉ (merge l).merged) : ((merge l).changed l).countP (i.IsWithin ·) = 1 := by
  obtain ⟨k, hk, hik⟩ := exists_isWithin_merged h hdisjoint hi
  have hchanged : k ∈ (merge l).changed l := by
    -- otherwise `k` would be one of the intervals, and overlap `i`
    refine (mem_changed_iff h hdisjoint).mpr ⟨hk, fun hkl => hmem ?_⟩
    have hcovers : k.Covers i.first := ⟨hik.1, UInt64.le_trans (h i hi) hik.2⟩
    rwa [eq_of_covers hdisjoint hi hkl ⟨UInt64.le_refl _, h i hi⟩ hcovers]
  refine Nat.le_antisymm ?_ (List.countP_pos_iff.mpr ⟨k, hchanged, decide_eq_true hik⟩)
  exact Nat.le_trans List.filter_sublist.countP_le (countP_isWithin_merged_le h hdisjoint hi)

/-- The intervals whose labels are not superseded and the changed ones are the merged intervals.  Each interval whose
label is superseded lies inside exactly one changed interval, and each other one is merged as it is.  The superseded
labels are those of the intervals with an adjacent one, each once. -/
theorem superseded_give_way_to_changed (h : ∀ i ∈ l, i.first ≤ i.last) (hdisjoint : l.Pairwise IsDisjoint)
    (hlabels : (l.map label).Nodup) :
    ((l.filter fun i => !(merge l).isSuperseded i.label) ++ (merge l).changed l).Perm (merge l).merged ∧
    (∀ i ∈ l, (merge l).isSuperseded i.label = true → ((merge l).changed l).countP (i.IsWithin ·) = 1) ∧
    (∀ i ∈ l, (merge l).isSuperseded i.label = false → i ∈ (merge l).merged) ∧
    (merge l).superseded.Perm ((l.filter (IsAdjacent l ·)).map label) := by
  refine ⟨filter_append_changed_perm h hdisjoint hlabels, ?_, ?_, superseded_perm h hdisjoint hlabels⟩
  · intro i hi hlabel
    exact countP_isWithin_changed h hdisjoint hi ((isSuperseded_iff h hlabels hi).mp hlabel)
  · intro i hi hlabel
    exact (isSuperseded_eq_false_iff h hlabels hi).mp hlabel

/-- Six intervals, out of order: two that are adjacent, one on its own, and three that end at the largest number. -/
def shelves : List Interval :=
  [⟨50, 59, "e"⟩, ⟨21, 30, "c"⟩, ⟨60, 18446744073709551615, "f"⟩, ⟨10, 19, "b"⟩, ⟨40, 49, "d"⟩, ⟨0, 9, "a"⟩]

theorem shelves_give_way :
    (∀ i ∈ shelves, i.first ≤ i.last) ∧ shelves.Pairwise IsDisjoint ∧ (shelves.map label).Nodup ∧
    (merge shelves).changed shelves = [⟨0, 19, "a"⟩, ⟨40, 18446744073709551615, "d"⟩] ∧
    ([⟨21, 30, "c"⟩, ⟨0, 19, "a"⟩, ⟨40, 18446744073709551615, "d"⟩] : List Interval).Perm (merge shelves).merged ∧
    (merge shelves).superseded.Perm ["e", "f", "b", "d", "a"] := by
  have hcomplete : ∀ i ∈ shelves, i.first ≤ i.last := by decide
  have hdisjoint : shelves.Pairwise IsDisjoint := by decide
  have hlabels : (shelves.map label).Nodup := by decide
  obtain ⟨hmerged, -, -, hsuperseded⟩ := superseded_give_way_to_changed hcomplete hdisjoint hlabels
  exact ⟨hcomplete, hdisjoint, hlabels, by decide, hmerged, hsuperseded⟩

end ConfigMigration.Interval

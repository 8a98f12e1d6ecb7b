import ConfigMigration.Interval
import Mathlib.Data.List.Nodup

/-!
# Merging intervals

What sorting and merging keep.  Sorting is stable, so it commutes with any change of intervals that leaves their
first numbers alone (`sort_filterMap`).  Merging keeps how often each number is covered (`countP_covers_merge`), and
of what it returns nothing is left to merge (`merge_merged`).  Where the labels of the input are distinct, the merged
intervals are the sorted ones with new ends, less the absorbed ones (`filterMap_replacement?_sort`).
-/

namespace ConfigMigration.Interval

/-- Whether an interval covers a number. -/
def Covers (i : Interval) (n : UInt64) : Prop := i.first ≤ n ∧ n ≤ i.last

instance (i : Interval) (n : UInt64) : Decidable (i.Covers n) :=
  inferInstanceAs (Decidable (_ ∧ _))

/-- The intervals stand in the order of their first numbers. -/
def IsSorted (l : List Interval) : Prop := l.Pairwise fun i j => i.first ≤ j.first

/-! ### Sorting -/

private theorem insertSorted_perm (i : Interval) (l : List Interval) : (insertSorted i l).Perm (i :: l) := by
  induction l with
  | nil => exact List.Perm.refl _
  | cons j l ih =>
    unfold insertSorted
    split
    · exact List.Perm.refl _
    · exact (ih.cons j).trans (List.Perm.swap i j l)

theorem sort_perm (l : List Interval) : (sort l).Perm l := by
  induction l with
  | nil => exact List.Perm.refl _
  | cons i l ih => exact (insertSorted_perm i (sort l)).trans (ih.cons i)

private theorem isSorted_insertSorted (i : Interval) {l : List Interval} (h : IsSorted l) :
    IsSorted (insertSorted i l) := by
  induction l with
  | nil => exact List.pairwise_singleton _ _
  | cons j l ih =>
    unfold IsSorted at h
    rw [List.pairwise_cons] at h
    unfold insertSorted
    split
    · rename_i hij
      refine List.pairwise_cons.mpr ⟨?_, List.pairwise_cons.mpr h⟩
      intro k hk
      rcases List.mem_cons.mp hk with rfl | hk
      · exact hij
      · exact UInt64.le_trans hij (h.1 k hk)
    · rename_i hij
      refine List.pairwise_cons.mpr ⟨?_, ih h.2⟩
      intro k hk
      rcases mem_insertSorted.mp hk with rfl | hk
      · exact UInt64.le_of_lt (UInt64.not_le.mp hij)
      · exact h.1 k hk

theorem isSorted_sort (l : List Interval) : IsSorted (sort l) := by
  induction l with
  | nil => exact List.Pairwise.nil
  | cons i l ih => exact isSorted_insertSorted i ih

theorem sort_of_isSorted {l : List Interval} (h : IsSorted l) : sort l = l := by
  induction l with
  | nil => rfl
  | cons i l ih =>
    unfold IsSorted at h
    rw [List.pairwise_cons] at h
    change insertSorted i (sort l) = i :: l
    rw [ih h.2]
    cases l with
    | nil => rfl
    | cons j l => rw [insertSorted, if_pos (h.1 j (List.mem_cons_self ..))]

private theorem filterMap_insertSorted {h : Interval → Option Interval}
    (hfirst : ∀ i j, h i = some j → j.first = i.first) (i : Interval) {l : List Interval} (hl : IsSorted l) :
    (insertSorted i l).filterMap h =
      match h i with
      | none => l.filterMap h
      | some j => insertSorted j (l.filterMap h) := by
  induction l with
  | nil =>
    cases hi : h i with
    | none => simp [insertSorted, hi]
    | some j => simp [insertSorted, hi]
  | cons k l ih =>
    unfold IsSorted at hl
    rw [List.pairwise_cons] at hl
    have ih := ih hl.2
    by_cases hik : i.first ≤ k.first
    · rw [show insertSorted i (k :: l) = i :: k :: l from if_pos hik]
      cases hi : h i with
      | none => rw [List.filterMap_cons_none hi]
      | some j =>
        rw [List.filterMap_cons_some hi]
        -- what is left of the sorted rest begins no earlier than the interval that is put in front of it
        cases hrest : (k :: l).filterMap h with
        | nil => rfl
        | cons m rest =>
          have hm : m ∈ (k :: l).filterMap h := hrest ▸ List.mem_cons_self ..
          obtain ⟨m', hm', hm⟩ := List.mem_filterMap.mp hm
          have hle : i.first ≤ m'.first := by
            rcases List.mem_cons.mp hm' with rfl | hm'
            · exact hik
            · exact UInt64.le_trans hik (hl.1 m' hm')
          exact (if_pos (by rw [hfirst i j hi, hfirst m' m hm]; exact hle)).symm
    · rw [show insertSorted i (k :: l) = k :: insertSorted i l from if_neg hik]
      cases hk : h k with
      | none => rw [List.filterMap_cons_none hk, List.filterMap_cons_none hk, ih]
      | some m =>
        rw [List.filterMap_cons_some hk, List.filterMap_cons_some hk, ih]
        cases hi : h i with
        | none => rfl
        | some j => exact (if_neg (by rw [hfirst i j hi, hfirst k m hk]; exact hik)).symm

/-- Sorting is stable: intervals can be dropped and given new ends and labels before or after it. -/
theorem sort_filterMap {h : Interval → Option Interval} (hfirst : ∀ i j, h i = some j → j.first = i.first)
    (l : List Interval) : sort (l.filterMap h) = (sort l).filterMap h := by
  induction l with
  | nil => rfl
  | cons i l ih =>
    change _ = (insertSorted i (sort l)).filterMap h
    rw [filterMap_insertSorted hfirst i (isSorted_sort l), ← ih]
    cases hi : h i with
    | none => rw [List.filterMap_cons_none hi]
    | some j =>
      rw [List.filterMap_cons_some hi]
      rfl

/-! ### The first of the merged intervals -/

private theorem exists_merged_mergeInto (current : Interval) (superseded : List String) (l : List Interval) :
    ∃ i rest, (mergeInto current superseded l).merged = i :: rest ∧
      i.first = current.first ∧ i.label = current.label := by
  induction l generalizing current superseded with
  | nil => exact ⟨current, [], rfl, rfl, rfl⟩
  | cons i l ih =>
    unfold mergeInto
    split
    · exact ih _ _
    · exact ⟨current, _, rfl, rfl, rfl⟩

private theorem mergeInto_merged (current : Interval) (superseded other : List String) (l : List Interval)
    {i : Interval} {rest : List Interval} (h : (mergeInto current superseded l).merged = i :: rest) :
    mergeInto i other rest = ⟨i :: rest, other⟩ := by
  induction l generalizing current superseded i rest with
  | nil =>
    rw [mergeInto, List.cons.injEq] at h
    rw [← h.2]
    rfl
  | cons j l ih =>
    unfold mergeInto at h
    split at h
    · exact ih _ _ h
    · rename_i hnot
      obtain ⟨k, rest', hrest, hfirst, -⟩ := exists_merged_mergeInto j superseded l
      rw [List.cons.injEq] at h
      obtain ⟨rfl, rfl⟩ := h
      have hstep : ¬current.FollowedBy k := by
        unfold FollowedBy at hnot ⊢
        rwa [hfirst]
      rw [hrest, mergeInto, if_neg hstep, ih j superseded hrest]

private theorem isChain_mergeInto (current : Interval) (superseded : List String) (l : List Interval) :
    (mergeInto current superseded l).merged.IsChain fun i j => ¬i.FollowedBy j := by
  induction l generalizing current superseded with
  | nil => exact List.IsChain.singleton current
  | cons i l ih =>
    unfold mergeInto
    split
    · exact ih _ _
    · rename_i hnot
      obtain ⟨k, rest, hrest, hfirst, -⟩ := exists_merged_mergeInto i superseded l
      have hchain := ih i superseded
      have hstep : ¬current.FollowedBy k := by
        unfold FollowedBy at hnot ⊢
        rwa [hfirst]
      change (current :: (mergeInto i superseded l).merged).IsChain _
      rw [hrest] at hchain ⊢
      exact List.isChain_cons_cons.mpr ⟨hstep, hchain⟩

/-- No merged interval is followed by its neighbour. -/
theorem isChain_merged (l : List Interval) : (merge l).merged.IsChain fun i j => ¬i.FollowedBy j := by
  unfold merge
  split
  · exact List.IsChain.nil
  · exact isChain_mergeInto _ _ _

/-! ### Origins -/

/-- The merged intervals carry first numbers and labels of the intervals, in their order. -/
theorem merged_mergeInto_sublist (current : Interval) (superseded : List String) (l : List Interval) :
    ((mergeInto current superseded l).merged.map fun i => (i.first, i.label)).Sublist
      ((current :: l).map fun i => (i.first, i.label)) := by
  induction l generalizing current superseded with
  | nil => exact List.Sublist.refl _
  | cons i l ih =>
    unfold mergeInto
    split
    · refine (ih _ _).trans ?_
      rw [List.map_cons, List.map_cons, List.map_cons]
      exact (List.sublist_cons_self ..).cons_cons _
    · exact (ih i superseded).cons_cons _

/-- An interval that is made from one of the given ones starts where it does and has its label. -/
theorem merged_sublist (l : List Interval) :
    ((merge l).merged.map fun i => (i.first, i.label)).Sublist ((sort l).map fun i => (i.first, i.label)) := by
  unfold merge
  split
  · exact List.nil_sublist _
  · rename_i i rest h
    rw [h]
    exact merged_mergeInto_sublist i [] rest

theorem exists_origin {l : List Interval} {i : Interval} (h : i ∈ (merge l).merged) :
    ∃ j ∈ l, j.first = i.first ∧ j.label = i.label := by
  have hmem := (merged_sublist l).subset (List.mem_map_of_mem h)
  obtain ⟨j, hj, heq⟩ := List.mem_map.mp hmem
  rw [Prod.mk.injEq] at heq
  exact ⟨j, mem_sort.mp hj, heq⟩

theorem isSorted_merged (l : List Interval) : IsSorted (merge l).merged := by
  have hsort : ((sort l).map fun i => (i.first, i.label)).Pairwise fun a b => a.1 ≤ b.1 :=
    List.pairwise_map.mpr (isSorted_sort l)
  have hmerged := hsort.sublist (merged_sublist l)
  rw [List.pairwise_map] at hmerged
  exact hmerged

/-- Merging merged intervals changes nothing. -/
theorem merge_merged (l : List Interval) : merge (merge l).merged = ⟨(merge l).merged, []⟩ := by
  have hsorted := sort_of_isSorted (isSorted_merged l)
  cases hm : (merge l).merged with
  | nil => rfl
  | cons i rest =>
    rw [hm] at hsorted
    unfold merge at hm
    split at hm
    · cases hm
    · rename_i j l' _
      rw [merge, hsorted]
      exact mergeInto_merged j [] [] l' hm

/-- A merge looks at the sorted intervals only. -/
theorem merge_congr {l l' : List Interval} (h : sort l = sort l') : merge l = merge l' := by
  unfold merge
  rw [h]

/-- Distinct labels stay distinct. -/
theorem nodup_labels_merged {l : List Interval} (h : (l.map label).Nodup) : ((merge l).merged.map label).Nodup := by
  have hsort : ((sort l).map label).Nodup := ((sort_perm l).map label).nodup_iff.mpr h
  have hsub := (merged_sublist l).map Prod.snd
  rw [List.map_map, List.map_map] at hsub
  exact hsort.sublist hsub

/-! ### Superseded labels -/

theorem mem_addLabel {labels : List String} {label other : String} :
    other ∈ addLabel labels label ↔ other ∈ labels ∨ other = label := by
  unfold addLabel
  split
  · rename_i h
    constructor
    · exact .inl
    · rintro (h' | rfl)
      · exact h'
      · exact h
  · simp

private theorem mem_superseded_mergeInto {current : Interval} {superseded : List String} {l : List Interval}
    {label : String} (h : label ∈ superseded) : label ∈ (mergeInto current superseded l).superseded := by
  induction l generalizing current superseded with
  | nil => exact h
  | cons i l ih =>
    unfold mergeInto
    split
    · exact ih (mem_addLabel.mpr (.inl (mem_addLabel.mpr (.inl h))))
    · exact ih h

theorem mem_of_mem_superseded_mergeInto {current : Interval} {superseded : List String} {l : List Interval}
    {label : String} (h : label ∈ (mergeInto current superseded l).superseded) :
    label ∈ superseded ∨ label ∈ (current :: l).map Interval.label := by
  induction l generalizing current superseded with
  | nil => exact .inl h
  | cons i l ih =>
    unfold mergeInto at h
    split at h
    · rcases ih h with h | h
      · rcases mem_addLabel.mp h with h | rfl
        · rcases mem_addLabel.mp h with h | rfl
          · exact .inl h
          · exact .inr (by simp)
        · exact .inr (by simp)
      · rcases List.mem_cons.mp h with h | h
        · exact .inr (by simp [h])
        · exact .inr (List.mem_cons_of_mem _ (List.mem_cons_of_mem _ h))
    · rcases ih h with h | h
      · exact .inl h
      · exact .inr (List.mem_cons_of_mem _ h)

private theorem mem_merged_or_superseded_mergeInto {current : Interval} {superseded : List String}
    {l : List Interval} {i : Interval} (h : i ∈ current :: l) :
    i ∈ (mergeInto current superseded l).merged ∨ i.label ∈ (mergeInto current superseded l).superseded := by
  induction l generalizing current superseded with
  | nil => exact .inl h
  | cons j l ih =>
    unfold mergeInto
    split
    · rcases List.mem_cons.mp h with rfl | h
      · exact .inr (mem_superseded_mergeInto (mem_addLabel.mpr (.inl (mem_addLabel.mpr (.inr rfl)))))
      · rcases List.mem_cons.mp h with rfl | h
        · exact .inr (mem_superseded_mergeInto (mem_addLabel.mpr (.inr rfl)))
        · exact ih (List.mem_cons_of_mem _ h)
    · rcases List.mem_cons.mp h with rfl | h
      · exact .inl (List.mem_cons_self ..)
      · exact (ih h).imp_left (List.mem_cons_of_mem _)

/-- Only labels of the intervals are superseded. -/
theorem exists_of_mem_superseded {l : List Interval} {label : String} (h : label ∈ (merge l).superseded) :
    ∃ i ∈ l, i.label = label := by
  unfold merge at h
  split at h
  · cases h
  · rename_i i rest hsort
    have hmem := (mem_of_mem_superseded_mergeInto h).resolve_left (List.not_mem_nil)
    rw [← hsort] at hmem
    obtain ⟨j, hj, rfl⟩ := List.mem_map.mp hmem
    exact ⟨j, mem_sort.mp hj, rfl⟩

/-- An interval stays as it is, or its label is superseded. -/
theorem mem_merged_or_superseded {l : List Interval} {i : Interval} (h : i ∈ l) :
    i ∈ (merge l).merged ∨ i.label ∈ (merge l).superseded := by
  have hsort := mem_sort.mpr h
  unfold merge
  split
  · rename_i hnil
    rw [hnil] at hsort
    cases hsort
  · rename_i j rest hcons
    rw [hcons] at hsort
    exact mem_merged_or_superseded_mergeInto hsort

/-! ### Coverage -/

private theorem isComplete_mergeInto {current : Interval} {superseded : List String} {l : List Interval}
    (h : ∀ i ∈ current :: l, i.first ≤ i.last) :
    ∀ i ∈ (mergeInto current superseded l).merged, i.first ≤ i.last := by
  induction l generalizing current superseded with
  | nil => exact h
  | cons j l ih =>
    rw [List.forall_mem_cons, List.forall_mem_cons] at h
    unfold mergeInto
    split
    · rename_i hfollow
      refine ih (List.forall_mem_cons.mpr ⟨?_, h.2.2⟩)
      have hcurrent := h.1
      have hj := h.2.1
      unfold FollowedBy at hfollow
      simp only [UInt64.le_iff_toNat_le] at hcurrent hj ⊢
      omega
    · rw [List.forall_mem_cons]
      exact ⟨h.1, ih (List.forall_mem_cons.mpr h.2)⟩

/-- No merged interval ends before it starts, if none of the intervals does. -/
theorem isComplete_of_mem_merged {l : List Interval} (h : ∀ i ∈ l, i.first ≤ i.last) {i : Interval}
    (hi : i ∈ (merge l).merged) : i.first ≤ i.last := by
  unfold merge at hi
  split at hi
  · cases hi
  · rename_i j rest hsort
    refine isComplete_mergeInto ?_ i hi
    rw [← hsort]
    exact fun k hk => h k (mem_sort.mp hk)

private theorem countP_covers_mergeInto {current : Interval} {superseded : List String} {l : List Interval}
    (h : ∀ i ∈ current :: l, i.first ≤ i.last) (n : UInt64) :
    (mergeInto current superseded l).merged.countP (Covers · n) = (current :: l).countP (Covers · n) := by
  induction l generalizing current superseded with
  | nil => rfl
  | cons j l ih =>
    rw [List.forall_mem_cons, List.forall_mem_cons] at h
    unfold mergeInto
    split
    · rename_i hfollow
      have hcurrent := h.1
      have hj := h.2.1
      unfold FollowedBy at hfollow
      have hunion : Covers { current with last := j.last } n ↔ current.Covers n ∨ j.Covers n := by
        unfold Covers
        simp only [UInt64.le_iff_toNat_le] at hcurrent hj ⊢
        omega
      have hdisjoint : ¬(current.Covers n ∧ j.Covers n) := by
        unfold Covers
        simp only [UInt64.le_iff_toNat_le]
        omega
      rw [ih (List.forall_mem_cons.mpr ⟨?_, h.2.2⟩)]
      · simp only [List.countP_cons, hunion, decide_eq_true_eq]
        by_cases hc : current.Covers n
        · have hnj : ¬j.Covers n := fun hj => hdisjoint ⟨hc, hj⟩
          simp [hc, hnj]
        · simp [hc]
      · simp only [UInt64.le_iff_toNat_le] at hcurrent hj ⊢
        omega
    · rw [List.countP_cons, List.countP_cons, ih (List.forall_mem_cons.mpr h.2)]

/-- Each number is covered as often by the merged intervals as by the given ones. -/
theorem countP_covers_merge {l : List Interval} (h : ∀ i ∈ l, i.first ≤ i.last) (n : UInt64) :
    (merge l).merged.countP (Covers · n) = l.countP (Covers · n) := by
  rw [← (sort_perm l).countP_eq]
  unfold merge
  split
  · rename_i hsort
    rw [hsort]
  · rename_i i rest hsort
    rw [hsort]
    refine countP_covers_mergeInto ?_ n
    rw [← hsort]
    exact fun k hk => h k (mem_sort.mp hk)

/-- The merged intervals cover the same numbers. -/
theorem exists_covers_merge_iff {l : List Interval} (h : ∀ i ∈ l, i.first ≤ i.last) (n : UInt64) :
    (∃ i ∈ (merge l).merged, i.Covers n) ↔ ∃ i ∈ l, i.Covers n := by
  have hcount := countP_covers_merge h n
  have hpos : ∀ l : List Interval, 0 < l.countP (Covers · n) ↔ ∃ i ∈ l, i.Covers n := by
    intro l
    simp [List.countP_pos_iff]
  rw [← hpos, ← hpos, hcount]

/-! ### Replacements -/

/-- What a merge makes of an interval, told by its label: the merged interval under the label, if there is one. -/
def Merge.replacement? (m : Merge) (i : Interval) : Option Interval := m.merged.find? (·.label = i.label)

theorem Merge.label_of_replacement? {m : Merge} {i j : Interval} (h : m.replacement? i = some j) :
    j.label = i.label := by
  simpa using List.find?_some h

private theorem filterMap_replacement?_mergeInto (current : Interval) (superseded : List String)
    {l : List Interval} (h : ((current :: l).map label).Nodup) :
    (current :: l).filterMap (mergeInto current superseded l).replacement? =
      (mergeInto current superseded l).merged := by
  induction l generalizing current superseded with
  | nil => simp [mergeInto, Merge.replacement?]
  | cons j l ih =>
    rw [List.map_cons, List.map_cons, List.nodup_cons, List.mem_cons, not_or, List.nodup_cons] at h
    obtain ⟨⟨hne, hcurrent⟩, hj, hl⟩ := h
    unfold mergeInto
    split
    · -- the second interval is absorbed: no merged one has its label
      have ih := ih { current with last := j.last } (addLabel (addLabel superseded current.label) j.label)
        (by rw [List.map_cons, List.nodup_cons]; exact ⟨hcurrent, hl⟩)
      have hnone : (mergeInto { current with last := j.last }
          (addLabel (addLabel superseded current.label) j.label) l).replacement? j = none := by
        rw [Merge.replacement?, List.find?_eq_none]
        intro k hk hlabel
        have hmem := (merged_mergeInto_sublist _ _ _).subset (List.mem_map_of_mem hk)
        obtain ⟨m, hm, heq⟩ := List.mem_map.mp hmem
        rw [Prod.mk.injEq] at heq
        have hmj : m.label = j.label := heq.2.trans (by simpa using hlabel)
        rcases List.mem_cons.mp hm with rfl | hm
        · exact hne hmj
        · exact hj (hmj ▸ List.mem_map_of_mem hm)
      rw [List.filterMap_cons] at ih ⊢
      rw [List.filterMap_cons_none hnone]
      exact ih
    · have ih := ih j superseded (by rw [List.map_cons, List.nodup_cons]; exact ⟨hj, hl⟩)
      have hself : Merge.replacement? ⟨current :: (mergeInto j superseded l).merged,
          (mergeInto j superseded l).superseded⟩ current = some current := by
        simp [Merge.replacement?]
      rw [List.filterMap_cons_some hself, ← ih]
      congr 1
      rw [ih]
      refine (List.filterMap_congr fun k hk => ?_).trans ih
      have hkne : current.label ≠ k.label := by
        rcases List.mem_cons.mp hk with rfl | hk
        · exact hne
        · exact fun heq => hcurrent (heq ▸ List.mem_map_of_mem hk)
      simp [Merge.replacement?, hkne]

theorem filterMap_replacement?_sort {l : List Interval} (h : (l.map label).Nodup) :
    (sort l).filterMap (merge l).replacement? = (merge l).merged := by
  have hsort : ((sort l).map label).Nodup := ((sort_perm l).map label).nodup_iff.mpr h
  unfold merge
  split
  · rename_i hnil
    rw [hnil]
    rfl
  · rename_i i rest hcons
    rw [hcons] at hsort ⊢
    exact filterMap_replacement?_mergeInto _ _ hsort

theorem first_of_replacement? {l : List Interval} (h : (l.map label).Nodup) {i j : Interval} (hi : i ∈ l)
    (hj : (merge l).replacement? i = some j) : j.first = i.first := by
  obtain ⟨k, hk, hfirst, hlabel⟩ := exists_origin (List.mem_of_find?_eq_some hj)
  have : k = i := List.inj_on_of_nodup_map h hk hi (hlabel.trans (Merge.label_of_replacement? hj))
  rw [← hfirst, this]

/-- The replacements of the intervals, in whatever order those stand, sort into the merged ones. -/
theorem sort_filterMap_replacement? {l : List Interval} (h : (l.map label).Nodup) :
    sort (l.filterMap (merge l).replacement?) = (merge l).merged := by
  -- the replacement is made to keep the first number of every interval, as stability asks for
  have hcongr : ∀ l' : List Interval, (∀ i ∈ l', i ∈ l) → l'.filterMap (merge l).replacement? =
      l'.filterMap fun i => ((merge l).replacement? i).filter (·.first = i.first) := by
    intro l' hl'
    refine List.filterMap_congr fun i hi => ?_
    cases hj : (merge l).replacement? i with
    | none => rfl
    | some j => rw [Option.filter_some, if_pos (by simpa using first_of_replacement? h (hl' i hi) hj)]
  rw [hcongr l fun i hi => hi, sort_filterMap ?_, ← hcongr (sort l) fun i hi => mem_sort.mp hi,
    filterMap_replacement?_sort h]
  intro i j hj
  simpa using (Option.filter_eq_some_iff.mp hj).2

end ConfigMigration.Interval

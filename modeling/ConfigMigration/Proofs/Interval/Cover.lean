import ConfigMigration.Proofs.Interval
import Mathlib.Data.List.Pairwise
import Mathlib.Data.List.Perm.Subperm

/-!
# Covers by intervals

A list of intervals covers the numbers of its members.  A list is reduced if its members are complete and pairwise
disjoint and none of them follows another one.  The members of a reduced list are the runs of consecutive numbers that
it covers: an interval among the numbers that are covered lies in one of them (`IsReduced.covers_of_covers`).  So a
reduced list is the shortest cover of its numbers, and the only one of its length (`IsReduced.perm_of_length_eq`).
Merging disjoint intervals gives a reduced list (`isReduced_merged`).
-/

namespace ConfigMigration.Interval

/-- Whether no number is covered by both intervals. -/
def IsDisjoint (i j : Interval) : Prop := ∀ n, ¬(i.Covers n ∧ j.Covers n)

/-- The ends of an interval. -/
def ends (i : Interval) : UInt64 × UInt64 := (i.first, i.last)

/-- Whether intervals cover the same numbers as others. -/
def SameCover (l m : List Interval) : Prop := ∀ n, (∃ i ∈ l, i.Covers n) ↔ ∃ i ∈ m, i.Covers n

/-- Whether intervals are complete, pairwise disjoint, and none of them starts one past the end of another. -/
structure IsReduced (l : List Interval) : Prop where
  complete : ∀ i ∈ l, i.first ≤ i.last
  disjoint : l.Pairwise IsDisjoint
  apart : ∀ i ∈ l, ∀ j ∈ l, ¬i.FollowedBy j

/-! ### Disjointness -/

instance : Std.Symm IsDisjoint := ⟨fun _ _ h n hn => h n hn.symm⟩

theorem isDisjoint_iff {i j : Interval} :
    i.IsDisjoint j ↔ i.last < i.first ∨ j.last < j.first ∨ i.last < j.first ∨ j.last < i.first := by
  unfold IsDisjoint Covers
  simp only [UInt64.le_iff_toNat_le, UInt64.lt_iff_toNat_lt]
  constructor
  · intro h
    -- the later one of the two first numbers is the one to ask for
    have hi := h i.first
    have hj := h j.first
    omega
  · intro h n
    omega

instance (i j : Interval) : Decidable (i.IsDisjoint j) := decidable_of_iff _ isDisjoint_iff.symm

theorem pairwise_isDisjoint_iff {l : List Interval} :
    l.Pairwise IsDisjoint ↔ ∀ n, l.countP (Covers · n) ≤ 1 := by
  induction l with
  | nil => simp
  | cons i l ih =>
    rw [List.pairwise_cons, ih]
    simp only [List.countP_cons, decide_eq_true_eq]
    constructor
    · rintro ⟨hi, hl⟩ n
      by_cases hn : i.Covers n
      · have hnone : l.countP (Covers · n) = 0 := by
          rw [List.countP_eq_zero]
          intro j hj
          simpa using fun hcov => hi j hj n ⟨hn, hcov⟩
        simp [hn, hnone]
      · rw [if_neg hn]
        exact hl n
    · intro h
      refine ⟨fun j hj n hn => ?_, fun n => Nat.le_of_add_right_le (h n)⟩
      have hpos : 0 < l.countP (Covers · n) := List.countP_pos_iff.mpr ⟨j, hj, by simpa using hn.2⟩
      have hle := h n
      rw [if_pos hn.1] at hle
      omega

theorem eq_of_covers {l : List Interval} (hdisjoint : l.Pairwise IsDisjoint) {i j : Interval} (hi : i ∈ l)
    (hj : j ∈ l) {n : UInt64} (hin : i.Covers n) (hjn : j.Covers n) : i = j := by
  refine Decidable.byContradiction fun hne => ?_
  exact hdisjoint.forall hi hj hne n ⟨hin, hjn⟩

/-! ### Reduced lists -/

namespace IsReduced

variable {l : List Interval}

theorem eq_of_covers (h : IsReduced l) {i j : Interval} (hi : i ∈ l) (hj : j ∈ l) {n : UInt64} (hin : i.Covers n)
    (hjn : j.Covers n) : i = j :=
  Interval.eq_of_covers h.disjoint hi hj hin hjn

theorem covers_first (h : IsReduced l) {i : Interval} (hi : i ∈ l) : i.Covers i.first :=
  ⟨UInt64.le_refl _, h.complete i hi⟩

theorem covers_last (h : IsReduced l) {i : Interval} (hi : i ∈ l) : i.Covers i.last :=
  ⟨h.complete i hi, UInt64.le_refl _⟩

theorem not_covers_succ_last (h : IsReduced l) {i j : Interval} (hi : i ∈ l) (hj : j ∈ l) {n : UInt64}
    (hn : n.toNat = i.last.toNat + 1) : ¬j.Covers n := by
  intro hjn
  have hapart := h.apart i hi j hj
  -- `j` does not start at `n`, so it starts earlier and covers the end of `i` as well
  have hjlast : j.Covers i.last := by
    unfold Covers at hjn ⊢
    unfold FollowedBy at hapart
    simp only [UInt64.le_iff_toNat_le] at hjn ⊢
    omega
  have heq := h.eq_of_covers hi hj (h.covers_last hi) hjlast
  rw [← heq] at hjn
  have hle := UInt64.le_iff_toNat_le.mp hjn.2
  omega

private theorem covers_of_le (h : IsReduced l) {i k : Interval} (hk : ∀ n, k.Covers n → ∃ j ∈ l, j.Covers n)
    (hi : i ∈ l) {a b : UInt64} (hia : i.Covers a) (hka : k.Covers a) (hkb : k.Covers b) (hab : a ≤ b) :
    i.Covers b := by
  refine Decidable.byContradiction fun hib => ?_
  -- otherwise `k` reaches from `a` over the end of `i` to `b`, and covers the number behind that end
  have hlast : i.last.toNat < b.toNat := by
    unfold Covers at hia hib
    simp only [UInt64.le_iff_toNat_le] at hia hib hab
    omega
  have hn : (UInt64.ofNat (i.last.toNat + 1)).toNat = i.last.toNat + 1 :=
    UInt64.toNat_ofNat_of_lt (Nat.lt_of_le_of_lt hlast b.toNat_lt)
  have hkn : k.Covers (UInt64.ofNat (i.last.toNat + 1)) := by
    unfold Covers at hia hka hkb ⊢
    simp only [UInt64.le_iff_toNat_le, hn] at hia hka hkb ⊢
    omega
  obtain ⟨j, hj, hjn⟩ := hk _ hkn
  exact h.not_covers_succ_last hi hj hn hjn

/-- An interval among the numbers that are covered lies in one member. -/
theorem covers_of_covers (h : IsReduced l) {i k : Interval} (hk : ∀ n, k.Covers n → ∃ j ∈ l, j.Covers n)
    (hi : i ∈ l) {a b : UInt64} (hia : i.Covers a) (hka : k.Covers a) (hkb : k.Covers b) : i.Covers b := by
  rcases UInt64.le_total a b with hab | hba
  · exact h.covers_of_le hk hi hia hka hkb hab
  · obtain ⟨j, hj, hjb⟩ := hk b hkb
    have hja := h.covers_of_le hk hj hjb hkb hka hba
    rwa [h.eq_of_covers hi hj hia hja]

private theorem nodup (h : IsReduced l) : l.Nodup := by
  refine h.disjoint.imp_of_mem fun hi _ hij heq => ?_
  rw [← heq] at hij
  exact hij _ ⟨h.covers_first hi, h.covers_first hi⟩

variable {m : List Interval} {f : Interval → Interval}

/-- Of another cover, what covers the first number of a member lies in the member. -/
private theorem covers_of_start (h : IsReduced l) (hm : SameCover m l)
    (hf : ∀ i ∈ l, f i ∈ m ∧ (f i).Covers i.first) {i : Interval} (hi : i ∈ l) {n : UInt64} (hn : (f i).Covers n) :
    i.Covers n := by
  have hcovered : ∀ n, (f i).Covers n → ∃ j ∈ l, j.Covers n := fun n hn => (hm n).mp ⟨f i, (hf i hi).1, hn⟩
  exact h.covers_of_covers hcovered hi (h.covers_first hi) (hf i hi).2 hn

private theorem exists_start (h : IsReduced l) (hm : SameCover m l) :
    ∃ f : Interval → Interval, ∀ i ∈ l, f i ∈ m ∧ (f i).Covers i.first := by
  have hstart : ∀ i, ∃ k, i ∈ l → k ∈ m ∧ k.Covers i.first := by
    intro i
    by_cases hi : i ∈ l
    · obtain ⟨k, hk⟩ := (hm i.first).mpr ⟨i, hi, h.covers_first hi⟩
      exact ⟨k, fun _ => hk⟩
    · exact ⟨i, fun hmem => absurd hmem hi⟩
  exact Classical.axiomOfChoice hstart

private theorem subperm_map (h : IsReduced l) (hm : SameCover m l)
    (hf : ∀ i ∈ l, f i ∈ m ∧ (f i).Covers i.first) : (l.map f).Subperm m := by
  have hinj : ∀ i ∈ l, ∀ j ∈ l, f i = f j → i = j := by
    intro i hi j hj heq
    have hij : i.Covers j.first := h.covers_of_start hm hf hi (heq ▸ (hf j hj).2)
    exact h.eq_of_covers hi hj hij (h.covers_first hj)
  refine (h.nodup.map_on hinj).subperm fun k hk => ?_
  obtain ⟨i, hi, rfl⟩ := List.mem_map.mp hk
  exact (hf i hi).1

/-- No cover of the same numbers is shorter than a reduced one. -/
theorem length_le (h : IsReduced l) (hm : SameCover m l) : l.length ≤ m.length := by
  obtain ⟨f, hf⟩ := h.exists_start hm
  have hle := (h.subperm_map hm hf).length_le
  rwa [List.length_map] at hle

/-- A cover of the same numbers and the same length has the same intervals, apart from their order and labels. -/
theorem perm_of_length_eq (h : IsReduced l) (hm : SameCover m l) (hlen : m.length = l.length) :
    (m.map ends).Perm (l.map ends) := by
  obtain ⟨f, hf⟩ := h.exists_start hm
  have hperm : (l.map f).Perm m := by
    have hle : m.length = (l.map f).length := hlen.trans (List.length_map f).symm
    exact (h.subperm_map hm hf).perm_of_length_le (Nat.le_of_eq hle)
  have hends : ∀ i ∈ l, (f i).ends = i.ends := by
    intro i hi
    -- the end of `i` is covered by `f j` for some `j`, and `f j` lies in `j`
    obtain ⟨k, hk, hlast⟩ := (hm i.last).mpr ⟨i, hi, h.covers_last hi⟩
    obtain ⟨j, hj, rfl⟩ := List.mem_map.mp (hperm.mem_iff.mpr hk)
    have hij := h.eq_of_covers hi hj (h.covers_last hi) (h.covers_of_start hm hf hj hlast)
    subst hij
    have hcomplete : (f i).first ≤ (f i).last := UInt64.le_trans hlast.1 hlast.2
    have hstart := (h.covers_of_start hm hf hi ⟨UInt64.le_refl _, hcomplete⟩).1
    have hstop := (h.covers_of_start hm hf hi ⟨hcomplete, UInt64.le_refl _⟩).2
    exact Prod.ext (UInt64.le_antisymm (hf i hi).2.1 hstart) (UInt64.le_antisymm hstop hlast.2)
  have hmap : (l.map f).map ends = l.map ends := by
    rw [List.map_map]
    exact List.map_congr_left hends
  rw [← hmap]
  exact (hperm.map ends).symm

end IsReduced

/-! ### Merged intervals -/

private theorem not_followedBy_of_first_le {i j : Interval} (hij : i.first ≤ j.first) (hj : j.first ≤ j.last) :
    ¬j.FollowedBy i := by
  unfold FollowedBy
  rw [UInt64.le_iff_toNat_le] at hij hj
  omega

/-- The neighbour `k` lies between `i` and `j`, so it would be the one that follows `i`. -/
private theorem not_followedBy_of_neighbour {i j k : Interval} (hi : i.first ≤ i.last) (hk : k.first ≤ k.last)
    (hik : i.first ≤ k.first) (hkj : k.first ≤ j.first) (hdisjoint : i.IsDisjoint k) (h : ¬i.FollowedBy k) :
    ¬i.FollowedBy j := by
  have hapart := isDisjoint_iff.mp hdisjoint
  unfold FollowedBy at h ⊢
  simp only [UInt64.le_iff_toNat_le, UInt64.lt_iff_toNat_lt] at hi hk hik hkj hapart
  omega

/-- In order and disjoint, an interval can only be followed by its neighbour. -/
private theorem not_followedBy_of_isChain {l : List Interval} (hcomplete : ∀ i ∈ l, i.first ≤ i.last)
    (hsorted : IsSorted l) (hdisjoint : l.Pairwise IsDisjoint) (hchain : l.IsChain fun i j => ¬i.FollowedBy j) :
    ∀ i ∈ l, ∀ j ∈ l, ¬i.FollowedBy j := by
  induction l with
  | nil => exact fun i hi => absurd hi List.not_mem_nil
  | cons i l ih =>
    unfold IsSorted at hsorted
    rw [List.pairwise_cons] at hsorted hdisjoint
    rw [List.forall_mem_cons] at hcomplete
    have hrest := ih hcomplete.2 hsorted.2 hdisjoint.2 hchain.of_cons
    have hself : ¬i.FollowedBy i := not_followedBy_of_first_le (UInt64.le_refl _) hcomplete.1
    have hahead : ∀ j ∈ l, ¬i.FollowedBy j := by
      intro j hj
      cases l with
      | nil => cases hj
      | cons k l =>
        have hkj : k.first ≤ j.first := by
          rcases List.mem_cons.mp hj with rfl | hj
          · exact UInt64.le_refl _
          · exact (List.pairwise_cons.mp hsorted.2).1 j hj
        have hmem : k ∈ k :: l := List.mem_cons_self ..
        exact not_followedBy_of_neighbour hcomplete.1 (hcomplete.2 k hmem) (hsorted.1 k hmem) hkj
          (hdisjoint.1 k hmem) (List.isChain_cons_cons.mp hchain).1
    have hbehind : ∀ j ∈ l, ¬j.FollowedBy i :=
      fun j hj => not_followedBy_of_first_le (hsorted.1 j hj) (hcomplete.2 j hj)
    refine List.forall_mem_cons.mpr ⟨List.forall_mem_cons.mpr ⟨hself, hahead⟩, fun j hj => ?_⟩
    exact List.forall_mem_cons.mpr ⟨hbehind j hj, hrest j hj⟩

theorem pairwise_isDisjoint_merged {l : List Interval} (h : ∀ i ∈ l, i.first ≤ i.last)
    (hdisjoint : l.Pairwise IsDisjoint) : (merge l).merged.Pairwise IsDisjoint := by
  rw [pairwise_isDisjoint_iff] at hdisjoint ⊢
  intro n
  rw [countP_covers_merge h]
  exact hdisjoint n

theorem isReduced_merged {l : List Interval} (h : ∀ i ∈ l, i.first ≤ i.last) (hdisjoint : l.Pairwise IsDisjoint) :
    IsReduced (merge l).merged := by
  have hcomplete : ∀ i ∈ (merge l).merged, i.first ≤ i.last := fun i hi => isComplete_of_mem_merged h hi
  have hmerged := pairwise_isDisjoint_merged h hdisjoint
  exact ⟨hcomplete, hmerged, not_followedBy_of_isChain hcomplete (isSorted_merged l) hmerged (isChain_merged l)⟩

theorem eq_of_first_eq {l : List Interval} (h : ∀ i ∈ l, i.first ≤ i.last) (hdisjoint : l.Pairwise IsDisjoint)
    {i j : Interval} (hi : i ∈ l) (hj : j ∈ l) (heq : i.first = j.first) : i = j := by
  refine Decidable.byContradiction fun hne => ?_
  have hij := hdisjoint.forall hi hj hne
  exact hij i.first ⟨⟨UInt64.le_refl _, h i hi⟩, by rw [heq]; exact ⟨UInt64.le_refl _, h j hj⟩⟩

/-- Merging complete intervals keeps how often each number is covered, and leaves them in order with no interval
followed by its neighbour.  Disjoint intervals stay disjoint, none of them follows any other one, each has the label
of the interval that started where it does, and they are the shortest cover of the same numbers and, apart from order
and labels, the only one of this length. -/
theorem merged_is_least_cover {l : List Interval} (h : ∀ i ∈ l, i.first ≤ i.last) :
    (∀ n, (merge l).merged.countP (Covers · n) = l.countP (Covers · n)) ∧
    IsSorted (merge l).merged ∧
    (merge l).merged.IsChain (fun i j => ¬i.FollowedBy j) ∧
    (l.Pairwise IsDisjoint →
      (merge l).merged.Pairwise IsDisjoint ∧
      (∀ i ∈ (merge l).merged, ∀ j ∈ (merge l).merged, ¬i.FollowedBy j) ∧
      (∀ i ∈ (merge l).merged, ∃ j ∈ l, j.first = i.first ∧ j.label = i.label ∧
        ∀ k ∈ l, k.first = i.first → k = j) ∧
      SameCover (merge l).merged l ∧
      ∀ m, SameCover m l → (merge l).merged.length ≤ m.length ∧
        (m.length = (merge l).merged.length → (m.map ends).Perm ((merge l).merged.map ends))) := by
  refine ⟨countP_covers_merge h, isSorted_merged l, isChain_merged l, fun hdisjoint => ?_⟩
  have hreduced := isReduced_merged h hdisjoint
  have hsame : SameCover (merge l).merged l := exists_covers_merge_iff h
  refine ⟨hreduced.disjoint, hreduced.apart, ?_, hsame, ?_⟩
  · intro i hi
    obtain ⟨j, hj, hfirst, hlabel⟩ := exists_origin hi
    exact ⟨j, hj, hfirst, hlabel, fun k hk hkfirst => eq_of_first_eq h hdisjoint hk hj (hkfirst.trans hfirst.symm)⟩
  · intro m hm
    have hm' : SameCover m (merge l).merged := fun n => (hm n).trans (hsame n).symm
    exact ⟨hreduced.length_le hm', hreduced.perm_of_length_eq hm'⟩

/-- Five intervals, out of order, that make two runs; the second one ends at the largest number. -/
def scattered : List Interval :=
  [⟨18446744073709551615, 18446744073709551615, "top"⟩, ⟨11, 20, "b"⟩, ⟨1, 10, "a"⟩,
    ⟨25, 18446744073709551614, "c"⟩, ⟨21, 22, "d"⟩]

theorem scattered_least_cover :
    (∀ i ∈ scattered, i.first ≤ i.last) ∧ scattered.Pairwise IsDisjoint ∧
    (merge scattered).merged = [⟨1, 22, "a"⟩, ⟨25, 18446744073709551615, "c"⟩] ∧
    ∀ m, SameCover m scattered →
      2 ≤ m.length ∧ (m.length = 2 → (m.map ends).Perm [(1, 22), (25, 18446744073709551615)]) := by
  have hcomplete : ∀ i ∈ scattered, i.first ≤ i.last := by decide
  have hdisjoint : scattered.Pairwise IsDisjoint := by decide
  have hmerged : (merge scattered).merged = [⟨1, 22, "a"⟩, ⟨25, 18446744073709551615, "c"⟩] := by decide
  refine ⟨hcomplete, hdisjoint, hmerged, fun m hm => ?_⟩
  obtain ⟨-, -, -, hleast⟩ := merged_is_least_cover hcomplete
  obtain ⟨-, -, -, -, hleast⟩ := hleast hdisjoint
  have hm := hleast m hm
  rw [hmerged] at hm
  exact hm

end ConfigMigration.Interval

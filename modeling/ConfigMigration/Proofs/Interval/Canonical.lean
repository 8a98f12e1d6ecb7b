import ConfigMigration.Proofs.Interval
import Mathlib.Data.List.Perm.Basic

/-!
# Merging is canonical

Merging takes lists of intervals to representatives that it leaves alone, whatever the intervals are like: they may
overlap, start at the same number or end before they start.  Lists with the same intervals have the same
representative, and supersede the same labels in the same order, unless intervals that start at the same number could
change places (`merge_is_canonical`).
-/

namespace ConfigMigration.Interval

/-- Sorting forgets the order of intervals that start at different numbers. -/
theorem sort_eq_of_perm {l m : List Interval} (h : l.Perm m) (hfirst : (l.map first).Nodup) : sort l = sort m := by
  have hperm : (sort l).Perm (sort m) := (sort_perm l).trans (h.trans (sort_perm m).symm)
  refine hperm.eq_of_pairwise ?_ (isSorted_sort l) (isSorted_sort m)
  intro i j hi hj hij hji
  have hil : i ∈ l := mem_sort.mp hi
  have hjl : j ∈ l := h.mem_iff.mpr (mem_sort.mp hj)
  exact List.inj_on_of_nodup_map hfirst hil hjl (UInt64.le_antisymm hij hji)

/-- Merging what has been merged changes nothing and supersedes no label.  The order of intervals that start at
different numbers does not matter to a merge. -/
theorem merge_is_canonical :
    (∀ l : List Interval, merge (merge l).merged = ⟨(merge l).merged, []⟩) ∧
    ∀ l m : List Interval, l.Perm m → (l.map first).Nodup → merge l = merge m := by
  refine ⟨merge_merged, ?_⟩
  intro l m h hfirst
  exact merge_congr (sort_eq_of_perm h hfirst)

/-- Three runs, the first of which is cut short by an interval that ends before it starts. -/
def ragged : List Interval :=
  [⟨12, 20, "d"⟩, ⟨5, 2, "b"⟩, ⟨7, 30, "c"⟩, ⟨21, 25, "e"⟩, ⟨1, 4, "a"⟩]

theorem ragged_merge_reverse :
    ragged.Perm ragged.reverse ∧ (ragged.map first).Nodup ∧
    merge ragged.reverse = ⟨[⟨1, 2, "a"⟩, ⟨7, 30, "c"⟩, ⟨12, 25, "d"⟩], ["a", "b", "d", "e"]⟩ := by
  have hperm : ragged.Perm ragged.reverse := ragged.reverse_perm.symm
  have hfirst : (ragged.map first).Nodup := by decide
  refine ⟨hperm, hfirst, ?_⟩
  rw [← merge_is_canonical.2 ragged ragged.reverse hperm hfirst]
  decide

/-- Intervals that start at the same number keep the order in which they are given. -/
example : merge [⟨1, 3, "a"⟩, ⟨1, 2, "b"⟩] ≠ merge [⟨1, 2, "b"⟩, ⟨1, 3, "a"⟩] := by decide

end ConfigMigration.Interval

import ConfigMigration.Path.Parser
import Mathlib.Data.List.TakeWhile

/-!
# Segments

A text is cut at the slashes outside of brackets.  A text without such a slash stays in one segment with whatever
stands behind it (`segmentsFrom_append`), a text that leaves no bracket open is cut apart from what stands behind the
next slash (`segmentsFrom_append_slash`), and no segment holds a slash outside of brackets (`uncut_of_mem_segments`).
The number of open brackets behind a text follows from its brackets alone.
-/

namespace ConfigMigration.Path

/-- The number of open brackets behind a text. -/
def depthBehind (depth : Nat) (text : List Char) : Nat := text.foldl depthAfter depth

/-- No slash of the text lies outside of brackets. -/
def Uncut : Nat → List Char → Prop
  | _, [] => True
  | depth, c :: text => ¬(c = '/' ∧ depth = 0) ∧ Uncut (depthAfter depth c) text

/-! ### Brackets -/

theorem depthBehind_cons (depth : Nat) (c : Char) (text : List Char) :
    depthBehind depth (c :: text) = depthBehind (depthAfter depth c) text := rfl

theorem depthBehind_append (depth : Nat) (s t : List Char) :
    depthBehind depth (s ++ t) = depthBehind (depthBehind depth s) t := List.foldl_append

theorem depthAfter_zero {c : Char} (h : c ≠ '[') : depthAfter 0 c = 0 := by
  rw [depthAfter, if_neg h]
  split <;> rfl

/-- Without an opening bracket no bracket is open behind a text. -/
theorem depthBehind_of_not_mem_open {s : List Char} (h : '[' ∉ s) : depthBehind 0 s = 0 := by
  induction s with
  | nil => rfl
  | cons c s ih =>
    rw [List.mem_cons, not_or] at h
    rw [depthBehind_cons, depthAfter_zero (Ne.symm h.1), ih h.2]

/-- Without a closing bracket every opening bracket counts. -/
theorem depthBehind_of_not_mem_close {s : List Char} (h : ']' ∉ s) (depth : Nat) :
    depthBehind depth s = depth + s.count '[' := by
  induction s generalizing depth with
  | nil => rfl
  | cons c s ih =>
    rw [List.mem_cons, not_or] at h
    rw [depthBehind_cons, ih h.2, List.count_cons, depthAfter, if_neg (Ne.symm h.1)]
    by_cases hc : c = '['
    · simp [hc]
      omega
    · simp [hc]

theorem uncut_append {depth : Nat} {s t : List Char} :
    Uncut depth (s ++ t) ↔ Uncut depth s ∧ Uncut (depthBehind depth s) t := by
  induction s generalizing depth with
  | nil => simp [Uncut, depthBehind]
  | cons c s ih => rw [List.cons_append, Uncut, Uncut, ih, depthBehind_cons, and_assoc]

theorem uncut_of_not_mem {s : List Char} (h : '/' ∉ s) (depth : Nat) : Uncut depth s := by
  induction s generalizing depth with
  | nil => trivial
  | cons c s ih =>
    rw [List.mem_cons, not_or] at h
    exact ⟨fun hc => h.1 hc.1.symm, ih h.2 _⟩

/-- Inside of brackets a text without a closing bracket is not cut. -/
theorem uncut_inside {s : List Char} (h : ']' ∉ s) {depth : Nat} (hd : 0 < depth) : Uncut depth s := by
  induction s generalizing depth with
  | nil => trivial
  | cons c s ih =>
    rw [List.mem_cons, not_or] at h
    have hc : depth ≤ depthAfter depth c := by
      unfold depthAfter
      rw [if_neg (Ne.symm h.1)]
      split <;> omega
    exact ⟨fun hcut => by omega, ih h.2 (by omega)⟩

/-- In front of the first opening bracket every slash cuts. -/
theorem not_mem_of_uncut {s : List Char} (h : Uncut 0 s) (hopen : '[' ∉ s) : '/' ∉ s := by
  induction s with
  | nil => exact List.not_mem_nil
  | cons c s ih =>
    rw [List.mem_cons, not_or] at hopen ⊢
    obtain ⟨hc, hs⟩ := h
    rw [depthAfter_zero (Ne.symm hopen.1)] at hs
    exact ⟨fun heq => hc ⟨heq.symm, rfl⟩, ih hs hopen.2⟩

/-! ### Cutting -/

theorem segmentsFrom_slash (text : List Char) : segmentsFrom 0 ('/' :: text) = [] :: segments text := by
  rw [segmentsFrom, if_pos ⟨rfl, rfl⟩, segments]

theorem segmentsFrom_ne_nil (depth : Nat) (text : List Char) : segmentsFrom depth text ≠ [] := by
  cases text with
  | nil => simp [segmentsFrom]
  | cons c text =>
    rw [segmentsFrom]
    split
    · exact List.cons_ne_nil _ _
    · split <;> exact List.cons_ne_nil _ _

theorem segmentsFrom_cons {depth : Nat} {c : Char} (h : ¬(c = '/' ∧ depth = 0)) (text : List Char) :
    segmentsFrom depth (c :: text) = (segmentsFrom (depthAfter depth c) text).modifyHead (c :: ·) := by
  rw [segmentsFrom, if_neg h]
  cases hs : segmentsFrom (depthAfter depth c) text with
  | nil => exact absurd hs (segmentsFrom_ne_nil _ _)
  | cons segment segments => rfl

/-- A text that is not cut belongs to the first segment. -/
theorem segmentsFrom_append {depth : Nat} {s : List Char} (h : Uncut depth s) (t : List Char) :
    segmentsFrom depth (s ++ t) = (segmentsFrom (depthBehind depth s) t).modifyHead (s ++ ·) := by
  induction s generalizing depth with
  | nil => exact (congrFun List.modifyHead_id _).symm
  | cons c s ih =>
    obtain ⟨hc, hs⟩ := h
    rw [List.cons_append, segmentsFrom_cons hc, ih hs, List.modifyHead_modifyHead, depthBehind_cons]
    rfl

/-- Where no bracket is open, a slash cuts, and what stands behind it is cut on its own. -/
theorem segmentsFrom_append_slash {depth : Nat} {s : List Char} (h : depthBehind depth s = 0) (t : List Char) :
    segmentsFrom depth (s ++ '/' :: t) = segmentsFrom depth s ++ segments t := by
  induction s generalizing depth with
  | nil =>
    have hdepth : depth = 0 := h
    rw [hdepth, List.nil_append, segmentsFrom_slash]
    rfl
  | cons c s ih =>
    rw [depthBehind_cons] at h
    have hrest := ih h
    rw [List.cons_append]
    by_cases hc : c = '/' ∧ depth = 0
    · obtain ⟨rfl, rfl⟩ := hc
      rw [segmentsFrom_slash, segmentsFrom_slash, List.cons_append, segments, segments]
      exact congrArg _ hrest
    · obtain ⟨first, rest, hsegments⟩ := List.exists_cons_of_ne_nil (segmentsFrom_ne_nil (depthAfter depth c) s)
      rw [segmentsFrom_cons hc, segmentsFrom_cons hc, hrest, hsegments]
      rfl

theorem uncut_of_segmentsFrom {depth : Nat} {text first : List Char} {rest : List (List Char)}
    (h : segmentsFrom depth text = first :: rest) : Uncut depth first ∧ ∀ s ∈ rest, Uncut 0 s := by
  induction text generalizing depth first rest with
  | nil =>
    cases h
    exact ⟨trivial, by simp⟩
  | cons c text ih =>
    by_cases hc : c = '/' ∧ depth = 0
    · rw [segmentsFrom, if_pos hc, List.cons.injEq] at h
      obtain ⟨rfl, hrest⟩ := h
      obtain ⟨first', rest', hsegments⟩ := List.exists_cons_of_ne_nil (segmentsFrom_ne_nil 0 text)
      obtain ⟨hfirst, hothers⟩ := ih hsegments
      rw [hsegments] at hrest
      subst hrest
      exact ⟨trivial, List.forall_mem_cons.mpr ⟨hfirst, hothers⟩⟩
    · rw [segmentsFrom_cons hc] at h
      obtain ⟨first', rest', hsegments⟩ := List.exists_cons_of_ne_nil (segmentsFrom_ne_nil (depthAfter depth c) text)
      obtain ⟨hfirst, hothers⟩ := ih hsegments
      rw [hsegments, List.modifyHead_cons, List.cons.injEq] at h
      obtain ⟨rfl, rfl⟩ := h
      exact ⟨⟨hc, hfirst⟩, hothers⟩

/-- No segment holds a slash outside of brackets. -/
theorem uncut_of_mem_segments {text s : List Char} (h : s ∈ segments text) : Uncut 0 s := by
  obtain ⟨first, rest, hsegments⟩ := List.exists_cons_of_ne_nil (segmentsFrom_ne_nil 0 text)
  obtain ⟨hfirst, hothers⟩ := uncut_of_segmentsFrom hsegments
  rw [segments, hsegments] at h
  rcases List.mem_cons.mp h with rfl | h
  · exact hfirst
  · exact hothers s h

end ConfigMigration.Path

import ConfigMigration.Json.Decoder
import ConfigMigration.Proofs.Except

/-!
# Nesting

How deep arrays and objects are nested in a term, and what it means for reading the term: a value that can be read
with some number of levels is read with as many as it is deep, always as the same value, and with fewer the text
counts as malformed (`value_eq_of_ok`).
-/

namespace ConfigMigration.Json

namespace Term

mutual

/-- How deep arrays and objects are nested in a term. -/
def depth : Term → Nat
  | null | bool _ | number _ | cutNumber | string _ | broken _ => 0
  | array items _ => itemsDepth items + 1
  | object members _ => membersDepth members + 1
termination_by structural t => t

/-- How deep the deepest of some items is. -/
def itemsDepth : List Term → Nat
  | [] => 0
  | t :: ts => max t.depth (itemsDepth ts)
termination_by structural ts => ts

/-- How deep the deepest of some members is. -/
def membersDepth : List (Spelling × Term) → Nat
  | [] => 0
  | (_, t) :: members => max t.depth (membersDepth members)
termination_by structural members => members

end

end Term

/-- The terms that spell a value: with enough levels they are read as it. -/
def Term.Spells (t : Term) (value : Json) : Prop :=
  ∃ levels, Decoder.value levels t = .ok value

namespace Decoder

/-- Reading a part that lies `depth` deep, and behind it parts that lie `depth'` deep. -/
private theorem bind_of_depth {α β : Type} {depth depth' levels : Nat} {x : Except Fault α}
    {f : α → Except Fault β} {a : α} {b : β} (hx : x = if depth ≤ levels then .ok a else .error .malformed)
    (hf : f a = if depth' ≤ levels then .ok b else .error .malformed) :
    x >>= f = if max depth depth' ≤ levels then .ok b else .error .malformed := by
  rw [hx]
  by_cases hd : depth ≤ levels
  · simp only [Nat.max_le, hd, true_and]
    exact hf
  · rw [if_neg hd, if_neg fun hmax => hd (Nat.le_trans (Nat.le_max_left ..) hmax)]
    rfl

mutual

/-- A value that can be read at all is read with as many levels as it is deep,
and with fewer its text counts as malformed. -/
theorem value_eq_of_ok : ∀ {t : Term} {budget : Nat} {v : Json}, value budget t = .ok v →
    ∀ levels, value levels t = if t.depth ≤ levels then .ok v else .error .malformed
  | .null, _, _, h, levels | .bool _, _, _, h, levels | .number _, _, _, h, levels | .string _, _, _, h, levels => by
    rw [Term.depth, if_pos (Nat.zero_le levels)]
    exact h
  | .array items ending, budget + 1, v, h, 0 => by
    rw [Term.depth, if_neg (Nat.not_succ_le_zero _)]
    rfl
  | .array items ending, budget + 1, v, h, levels + 1 => by
    rw [value] at h
    obtain ⟨vs, hvs, hend⟩ := exists_of_bind_eq_ok h
    rw [value, Term.depth, values_eq_of_ok hvs levels]
    simp only [Nat.add_le_add_iff_right]
    split
    · exact hend
    · rfl
  | .object members ending, budget + 1, v, h, 0 => by
    rw [Term.depth, if_neg (Nat.not_succ_le_zero _)]
    rfl
  | .object members ending, budget + 1, v, h, levels + 1 => by
    rw [value] at h
    obtain ⟨entries, hentries, hend⟩ := exists_of_bind_eq_ok h
    rw [value, Term.depth, entries_eq_of_ok hentries levels]
    simp only [Nat.add_le_add_iff_right]
    split
    · exact hend
    · rfl

private theorem values_eq_of_ok : ∀ {ts : List Term} {budget : Nat} {vs : List Json}, values budget ts = .ok vs →
    ∀ levels, values levels ts = if Term.itemsDepth ts ≤ levels then .ok vs else .error .malformed
  | [], _, vs, h, levels => by
    rw [Term.itemsDepth, if_pos (Nat.zero_le levels)]
    exact h
  | t :: ts, budget, vs, h, levels => by
    rw [values] at h
    obtain ⟨v, hv, h⟩ := exists_of_bind_eq_ok h
    obtain ⟨rest, hrest, h⟩ := exists_of_bind_eq_ok h
    cases h
    rw [values, Term.itemsDepth]
    refine bind_of_depth (value_eq_of_ok hv levels) ?_
    rw [values_eq_of_ok hrest levels]
    split <;> rfl

private theorem entries_eq_of_ok : ∀ {members : List (Spelling × Term)} {budget : Nat} {vs : List (String × Json)},
    entries budget members = .ok vs →
    ∀ levels, entries levels members = if Term.membersDepth members ≤ levels then .ok vs else .error .malformed
  | [], _, vs, h, levels => by
    rw [Term.membersDepth, if_pos (Nat.zero_le levels)]
    exact h
  | (name, t) :: members, budget, vs, h, levels => by
    rw [entries] at h
    obtain ⟨name', hname, h⟩ := exists_of_bind_eq_ok h
    obtain ⟨v, hv, h⟩ := exists_of_bind_eq_ok h
    obtain ⟨rest, hrest, h⟩ := exists_of_bind_eq_ok h
    cases h
    rw [entries, Term.membersDepth, hname]
    change value levels t >>= _ = _
    refine bind_of_depth (value_eq_of_ok hv levels) ?_
    rw [entries_eq_of_ok hrest levels]
    split <;> rfl

end

end Decoder

end ConfigMigration.Json

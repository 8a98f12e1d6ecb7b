import ConfigMigration.Proofs.Except
import ConfigMigration.Tree

/-!
# Changing the first match in a list

Writing changes the first entry of a list that satisfies a condition, or adds one; removing within a list changes
the first entry only.  Where the change keeps the condition, it is seen through the condition alone: the entries that
satisfy it are changed at their head, and those that satisfy a condition disjoint from it are not changed at all.
-/

namespace ConfigMigration.Tree

variable {α β ε : Type} {p q : α → Bool} {f g : α → α} {fresh : α} {l : List α}

/-- Changes the first member of a list that satisfies `p`, or adds the changed `fresh` at the end. -/
def upsert (p : α → Bool) (f : α → α) (fresh : α) : List α → List α
  | [] => [f fresh]
  | a :: l => if p a then f a :: l else a :: upsert p f fresh l

/-! ### Writing -/

/-- Where the change succeeds, changing the first match is an `upsert`. -/
theorem changeFirst_eq_ok {f' : α → Except ε α} (hl : ∀ a ∈ l, p a = true → f' a = .ok (f a))
    (hfresh : f' fresh = .ok (f fresh)) : changeFirst p f' fresh l = .ok (upsert p f fresh l) := by
  induction l with
  | nil =>
    rw [changeFirst, hfresh]
    rfl
  | cons a l ih =>
    rw [List.forall_mem_cons] at hl
    unfold changeFirst upsert
    split
    · rename_i ha
      rw [hl.1 ha]
      rfl
    · rw [ih hl.2]
      rfl

theorem upsert_congr (h : ∀ a ∈ l, p a = q a) : upsert p f fresh l = upsert q f fresh l := by
  induction l with
  | nil => rfl
  | cons a l ih =>
    rw [List.forall_mem_cons] at h
    rw [upsert, upsert, h.1, ih h.2]

theorem mem_upsert {b : α} (h : b ∈ upsert p f fresh l) : b ∈ l ∨ b = f fresh ∨ ∃ a ∈ l, p a = true ∧ b = f a := by
  induction l with
  | nil => exact .inr (.inl (List.mem_singleton.mp h))
  | cons a l ih =>
    unfold upsert at h
    split at h
    · rename_i ha
      rcases List.mem_cons.mp h with rfl | h
      · exact .inr (.inr ⟨a, List.mem_cons_self .., ha, rfl⟩)
      · exact .inl (List.mem_cons_of_mem _ h)
    · rcases List.mem_cons.mp h with rfl | h
      · exact .inl (List.mem_cons_self ..)
      · rcases ih h with h | h | ⟨a', ha', h⟩
        · exact .inl (List.mem_cons_of_mem _ h)
        · exact .inr (.inl h)
        · exact .inr (.inr ⟨a', List.mem_cons_of_mem _ ha', h⟩)

/-- What holds of every member and is kept by the change holds of every member afterwards. -/
theorem forall_mem_upsert {P : α → Prop} (hl : ∀ a ∈ l, P a) (hfresh : P fresh) (hf : ∀ a, P a → P (f a)) :
    ∀ a ∈ upsert p f fresh l, P a := by
  intro a ha
  rcases mem_upsert ha with ha | rfl | ⟨b, hb, -, rfl⟩
  · exact hl a ha
  · exact hf fresh hfresh
  · exact hf b (hl b hb)

/-- Two changes one after the other are one. -/
theorem upsert_upsert (hfresh : p fresh = true) (hf : ∀ a, p a = true → p (f a) = true) :
    upsert p g fresh (upsert p f fresh l) = upsert p (fun a => g (f a)) fresh l := by
  induction l with
  | nil => exact if_pos (hf fresh hfresh)
  | cons a l ih =>
    by_cases ha : p a = true
    · rw [upsert, if_pos ha, upsert, if_pos (hf a ha), upsert, if_pos ha]
    · rw [upsert, if_neg ha, upsert, if_neg ha, upsert, if_neg ha, ih]

theorem upsert_eq_append (h : ∀ a ∈ l, p a = false) : upsert p f fresh l = l ++ [f fresh] := by
  induction l with
  | nil => rfl
  | cons a l ih =>
    rw [List.forall_mem_cons] at h
    rw [upsert, if_neg (by simp [h.1]), ih h.2, List.cons_append]

/-- Changes one after the other of which none meets a member, or what an earlier one has put at the end. -/
theorem foldl_upsert_eq_append {ι : Type} {p : ι → α → Bool} {f : ι → α → α} {fresh : ι → α} {is : List ι}
    (hl : ∀ i ∈ is, ∀ a ∈ l, p i a = false) (his : is.Pairwise fun i j => p j (f i (fresh i)) = false) :
    is.foldl (fun l i => upsert (p i) (f i) (fresh i) l) l = l ++ is.map fun i => f i (fresh i) := by
  induction is generalizing l with
  | nil => exact (List.append_nil l).symm
  | cons i is ih =>
    rw [List.forall_mem_cons] at hl
    rw [List.pairwise_cons] at his
    have hl' : ∀ j ∈ is, ∀ a ∈ l ++ [f i (fresh i)], p j a = false := by
      intro j hj a ha
      rcases List.mem_append.mp ha with ha | ha
      · exact hl.2 j hj a ha
      · rw [List.mem_singleton.mp ha]
        exact his.1 j hj
    rw [List.foldl_cons, upsert_eq_append hl.1, ih hl' his.2, List.append_assoc]
    rfl

/-- A change that keeps the first match changes nothing. -/
theorem upsert_eq_self {a : α} (h : l.find? p = some a) (hf : f a = a) : upsert p f fresh l = l := by
  induction l with
  | nil => cases h
  | cons b l ih =>
    rw [List.find?_cons] at h
    unfold upsert
    split at h
    · rename_i hb
      rw [if_pos hb, Option.some.inj h, hf]
    · rename_i hb
      rw [if_neg (by simp [hb]), ih h]

/-- The matches are changed at their head. -/
theorem filter_upsert_self (hfresh : p fresh = true) (hf : ∀ a, p a = true → p (f a) = true) :
    (upsert p f fresh l).filter p =
      match l.filter p with
      | [] => [f fresh]
      | a :: rest => f a :: rest := by
  induction l with
  | nil => simp [upsert, hf fresh hfresh]
  | cons a l ih =>
    unfold upsert
    split
    · rename_i ha
      rw [List.filter_cons_of_pos (hf a ha), List.filter_cons_of_pos ha]
    · rename_i ha
      rw [List.filter_cons_of_neg ha, List.filter_cons_of_neg ha, ih]

/-- What does not match stays as it is. -/
theorem filter_upsert_of_disjoint (hq : ∀ a, p a = true → q a = false) (hfresh : p fresh = true)
    (hf : ∀ a, p a = true → p (f a) = true) : (upsert p f fresh l).filter q = l.filter q := by
  have hout : ∀ a, p a = true → ¬q (f a) = true := fun a ha => by simp [hq (f a) (hf a ha)]
  induction l with
  | nil => rw [upsert, List.filter_cons_of_neg (hout fresh hfresh)]
  | cons a l ih =>
    unfold upsert
    split
    · rename_i ha
      rw [List.filter_cons_of_neg (hout a ha), List.filter_cons_of_neg (by simp [hq a ha])]
    · rw [List.filter_cons, List.filter_cons, ih]

theorem find?_upsert_self (hfresh : p fresh = true) (hf : ∀ a, p a = true → p (f a) = true) :
    (upsert p f fresh l).find? p = some (f ((l.find? p).getD fresh)) := by
  rw [← List.head?_filter, filter_upsert_self hfresh hf, ← List.head?_filter]
  cases l.filter p <;> rfl

theorem find?_upsert_of_disjoint (hq : ∀ a, p a = true → q a = false) (hfresh : p fresh = true)
    (hf : ∀ a, p a = true → p (f a) = true) : (upsert p f fresh l).find? q = l.find? q := by
  rw [← List.head?_filter, filter_upsert_of_disjoint hq hfresh hf, List.head?_filter]

/-- Two conditions that are met first by the same member find what it is changed into. -/
theorem find?_upsert_of_find?_eq {a b : α} (hp : l.find? p = some a) (hq : l.find? q = some a) (hb : q b = true) :
    (upsert p (fun _ => b) fresh l).find? q = some b := by
  induction l with
  | nil => cases hp
  | cons c l ih =>
    have hpa := List.find?_some hp
    by_cases hc : p c = true
    · rw [upsert, if_pos hc, List.find?_cons_of_pos hb]
    · have hqc : ¬q c = true := by
        intro hqc
        rw [List.find?_cons_of_pos hqc] at hq
        rw [Option.some.inj hq] at hc
        exact hc hpa
      rw [List.find?_cons_of_neg hc] at hp
      rw [List.find?_cons_of_neg hqc] at hq
      rw [upsert, if_neg hc, List.find?_cons_of_neg hqc, ih hp hq]

/-- A member that meets a condition first goes on doing so where the change is made to another one, and does not
decide whether that one meets it. -/
theorem find?_upsert_of_find?_ne {a b : α} (hq : l.find? q = some a) (hp : l.find? p ≠ some a)
    (hb : ∀ c, l.find? p = some c → q b = q c) : (upsert p (fun _ => b) fresh l).find? q = some a := by
  induction l with
  | nil => cases hq
  | cons c l ih =>
    by_cases hc : p c = true
    · rw [List.find?_cons_of_pos hc] at hp hb
      have hqc : ¬q c = true := by
        intro hqc
        rw [List.find?_cons_of_pos hqc] at hq
        exact hp hq
      have hqb : ¬q b = true := by rwa [hb c rfl]
      rw [List.find?_cons_of_neg hqc] at hq
      rw [upsert, if_pos hc, List.find?_cons_of_neg hqb, hq]
    · rw [List.find?_cons_of_neg hc] at hp hb
      rw [upsert, if_neg hc]
      by_cases hqc : q c = true
      · rw [List.find?_cons_of_pos hqc] at hq ⊢
        exact hq
      · rw [List.find?_cons_of_neg hqc] at hq ⊢
        exact ih hq hp hb

/-- A view of the members that the condition and the change are seen through. -/
theorem map_upsert {k : α → β} {p' : β → Bool} {f' : β → β} (hp : ∀ a ∈ l, p a = p' (k a))
    (hf : ∀ a ∈ l, k (f a) = f' (k a)) (hfresh : k (f fresh) = f' (k fresh)) :
    (upsert p f fresh l).map k = upsert p' f' (k fresh) (l.map k) := by
  induction l with
  | nil => simp [upsert, hfresh]
  | cons a l ih =>
    rw [List.forall_mem_cons] at hp hf
    rw [List.map_cons, upsert, upsert, ← hp.1, ← ih hp.2 hf.2]
    split
    · rw [List.map_cons, hf.1]
    · rw [List.map_cons]

/-- A view that the change keeps shows whether a match was there before, and nothing else. -/
theorem map_of_changeFirst_eq_ok {k : α → β} {p' : β → Bool} {f' : α → Except ε α} {l' : List α}
    (hp : ∀ a ∈ l, p a = p' (k a)) (hf : ∀ a b, f' a = .ok b → k b = k a) (h : changeFirst p f' fresh l = .ok l') :
    l'.map k = upsert p' (fun b => b) (k fresh) (l.map k) := by
  induction l generalizing l' with
  | nil =>
    obtain ⟨a, ha, h⟩ := exists_of_bind_eq_ok h
    cases h
    rw [List.map_singleton, hf fresh a ha]
    rfl
  | cons b l ih =>
    rw [List.forall_mem_cons] at hp
    rw [changeFirst] at h
    rw [List.map_cons, upsert, ← hp.1]
    split at h
    · rename_i hb
      obtain ⟨a, ha, h⟩ := exists_of_bind_eq_ok h
      cases h
      rw [if_pos hb, List.map_cons, hf b a ha]
    · rename_i hb
      obtain ⟨rest, hrest, h⟩ := exists_of_bind_eq_ok h
      cases h
      rw [if_neg hb, List.map_cons, ih hp.2 hrest]

/-- What changing the first match does: the match is replaced, or the changed `fresh` is put at the end. -/
theorem changeFirst_cases {f' : α → Except ε α} {l' : List α} (h : changeFirst p f' fresh l = .ok l') :
    (∃ front a back b, l = front ++ a :: back ∧ (∀ c ∈ front, p c = false) ∧ p a = true ∧ f' a = .ok b ∧
      l' = front ++ b :: back) ∨
    ∃ b, (∀ a ∈ l, p a = false) ∧ f' fresh = .ok b ∧ l' = l ++ [b] := by
  induction l generalizing l' with
  | nil =>
    obtain ⟨b, hb, h⟩ := exists_of_bind_eq_ok h
    cases h
    exact .inr ⟨b, List.forall_mem_nil _, hb, rfl⟩
  | cons c l ih =>
    rw [changeFirst] at h
    cases hc : p c with
    | true =>
      rw [if_pos hc] at h
      obtain ⟨b, hb, h⟩ := exists_of_bind_eq_ok h
      cases h
      exact .inl ⟨[], c, l, b, rfl, List.forall_mem_nil _, hc, hb, rfl⟩
    | false =>
      rw [if_neg (by simp [hc])] at h
      obtain ⟨rest, hrest, h⟩ := exists_of_bind_eq_ok h
      cases h
      rcases ih hrest with ⟨front, a, back, b, rfl, hfront, ha, hb, rfl⟩ | ⟨b, hl, hb, rfl⟩
      · exact .inl ⟨c :: front, a, back, b, rfl, List.forall_mem_cons.mpr ⟨hc, hfront⟩, ha, hb, rfl⟩
      · exact .inr ⟨b, List.forall_mem_cons.mpr ⟨hc, hl⟩, hb, rfl⟩

/-- Changing the first match puts the changed one in its place. -/
theorem changeFirst_eq_map (f' : α → Except ε α) :
    changeFirst p f' fresh l = (fun b => upsert p (fun _ => b) fresh l) <$> f' ((l.find? p).getD fresh) := by
  induction l with
  | nil =>
    rw [changeFirst, List.find?_nil, Option.getD_none]
    cases f' fresh <;> rfl
  | cons a l ih =>
    rw [changeFirst]
    by_cases ha : p a = true
    · rw [if_pos ha, List.find?_cons_of_pos ha, Option.getD_some]
      cases f' a with
      | error e => rfl
      | ok b =>
        change Except.ok (b :: l) = Except.ok (upsert p (fun _ => b) fresh (a :: l))
        rw [upsert, if_pos ha]
    · rw [if_neg ha, List.find?_cons_of_neg ha, ih]
      cases f' ((l.find? p).getD fresh) with
      | error e => rfl
      | ok b =>
        change Except.ok (a :: upsert p (fun _ => b) fresh l) = Except.ok (upsert p (fun _ => b) fresh (a :: l))
        rw [upsert, if_neg ha]

/-- Where one value alone is looked for, it is put at the end if it is missing. -/
theorem mem_upsert_self {a b : α} (hp : ∀ c, p c = true ↔ c = a) :
    b ∈ upsert p (fun c => c) a l ↔ b = a ∨ b ∈ l := by
  induction l with
  | nil => simp [upsert]
  | cons c l ih =>
    unfold upsert
    split
    · rename_i hc
      rw [(hp c).mp hc, List.mem_cons, or_iff_right_of_imp Or.inl]
    · rw [List.mem_cons, ih, List.mem_cons, or_left_comm]

/-! ### Removing -/

theorem map_mapFirst_of_keeps {k : α → β} (hf : ∀ a, k (f a) = k a) : (mapFirst p f l).map k = l.map k := by
  induction l with
  | nil => rfl
  | cons a l ih =>
    unfold mapFirst
    split
    · rw [List.map_cons, List.map_cons, hf]
    · rw [List.map_cons, List.map_cons, ih]

theorem mapFirst_cases : mapFirst p f l = l ∨
    ∃ front a back, l = front ++ a :: back ∧ p a = true ∧ mapFirst p f l = front ++ f a :: back := by
  induction l with
  | nil => exact .inl rfl
  | cons c l ih =>
    unfold mapFirst
    split
    · rename_i hc
      exact .inr ⟨[], c, l, rfl, hc, rfl⟩
    · rcases ih with heq | ⟨front, a, back, hl, ha, heq⟩
      · exact .inl (by rw [heq])
      · exact .inr ⟨c :: front, a, back, by rw [hl]; rfl, ha, by rw [heq]; rfl⟩

theorem mem_mapFirst {b : α} (h : b ∈ mapFirst p f l) : b ∈ l ∨ ∃ a ∈ l, p a = true ∧ b = f a := by
  have hcases := mapFirst_cases (p := p) (f := f) (l := l)
  rcases hcases with heq | ⟨front, a, back, rfl, ha, heq⟩
  · exact .inl (heq ▸ h)
  · rw [heq, List.mem_append, List.mem_cons] at h
    rcases h with h | rfl | h
    · exact .inl (List.mem_append_left _ h)
    · exact .inr ⟨a, List.mem_append_right _ (List.mem_cons_self ..), ha, rfl⟩
    · exact .inl (List.mem_append_right _ (List.mem_cons_of_mem _ h))

theorem forall_mem_mapFirst {P : α → Prop} (hl : ∀ a ∈ l, P a) (hf : ∀ a, P a → P (f a)) :
    ∀ a ∈ mapFirst p f l, P a := by
  intro a ha
  rcases mem_mapFirst ha with ha | ⟨b, hb, -, rfl⟩
  · exact hl a ha
  · exact hf b (hl b hb)

theorem mapFirst_congr (h : ∀ a ∈ l, p a = q a) : mapFirst p f l = mapFirst q f l := by
  induction l with
  | nil => rfl
  | cons a l ih =>
    rw [List.forall_mem_cons] at h
    rw [mapFirst, mapFirst, h.1, ih h.2]

theorem mapFirst_congr_right (h : ∀ a ∈ l, f a = g a) : mapFirst p f l = mapFirst p g l := by
  induction l with
  | nil => rfl
  | cons a l ih =>
    rw [List.forall_mem_cons] at h
    rw [mapFirst, mapFirst, h.1, ih h.2]

theorem mapFirst_mapFirst (hf : ∀ a, p a = true → p (f a) = true) :
    mapFirst p g (mapFirst p f l) = mapFirst p (fun a => g (f a)) l := by
  induction l with
  | nil => rfl
  | cons a l ih =>
    by_cases ha : p a = true
    · rw [mapFirst, if_pos ha, mapFirst, if_pos (hf a ha), mapFirst, if_pos ha]
    · rw [mapFirst, if_neg ha, mapFirst, if_neg ha, mapFirst, if_neg ha, ih]

theorem mapFirst_id : mapFirst p (fun a => a) l = l := by
  induction l with
  | nil => rfl
  | cons a l ih =>
    rw [mapFirst, ih]
    split <;> rfl

theorem filter_mapFirst_self (hf : ∀ a, p a = true → p (f a) = true) :
    (mapFirst p f l).filter p =
      match l.filter p with
      | [] => []
      | a :: rest => f a :: rest := by
  induction l with
  | nil => rfl
  | cons a l ih =>
    unfold mapFirst
    split
    · rename_i ha
      rw [List.filter_cons_of_pos (hf a ha), List.filter_cons_of_pos ha]
    · rename_i ha
      rw [List.filter_cons_of_neg ha, List.filter_cons_of_neg ha, ih]

theorem filter_mapFirst_of_disjoint (hq : ∀ a, p a = true → q a = false) (hf : ∀ a, p a = true → p (f a) = true) :
    (mapFirst p f l).filter q = l.filter q := by
  induction l with
  | nil => rfl
  | cons a l ih =>
    unfold mapFirst
    split
    · rename_i ha
      rw [List.filter_cons_of_neg (by simp [hq (f a) (hf a ha)]), List.filter_cons_of_neg (by simp [hq a ha])]
    · rw [List.filter_cons, List.filter_cons, ih]

theorem find?_mapFirst_self (hf : ∀ a, p a = true → p (f a) = true) :
    (mapFirst p f l).find? p = (l.find? p).map f := by
  rw [← List.head?_filter, filter_mapFirst_self hf, ← List.head?_filter]
  cases l.filter p <;> rfl

theorem find?_mapFirst_of_disjoint (hq : ∀ a, p a = true → q a = false) (hf : ∀ a, p a = true → p (f a) = true) :
    (mapFirst p f l).find? q = l.find? q := by
  rw [← List.head?_filter, filter_mapFirst_of_disjoint hq hf, List.head?_filter]

theorem find?_filter_not_of_disjoint (hq : ∀ a, p a = true → q a = false) :
    (l.filter fun a => !p a).find? q = l.find? q := by
  rw [List.find?_filter]
  congr 1
  funext a
  cases hp : p a with
  | true => simp [hq a hp]
  | false => simp

/-- A change that keeps the first match, if there is one, changes nothing. -/
theorem mapFirst_eq_self (h : ∀ a, l.find? p = some a → f a = a) : mapFirst p f l = l := by
  induction l with
  | nil => rfl
  | cons a l ih =>
    unfold mapFirst
    by_cases ha : p a = true
    · rw [if_pos ha, h a (List.find?_cons_of_pos ha)]
    · rw [List.find?_cons_of_neg ha] at h
      rw [if_neg ha, ih h]

end ConfigMigration.Tree

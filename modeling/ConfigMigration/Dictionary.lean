/-!
# Dictionaries

A dictionary is a list of entries ordered by key.  A key is looked up with `List.lookup`, which gives the first
entry under it.  The laws of `insert` and `erase` are stated through `lookup` and hold for every list of entries,
ordered or not; `Ordered.insert` and `Ordered.erase` say that the order is kept.
-/

namespace ConfigMigration.Dictionary

variable {α : Type}

/-- The keys ascend, so each key has one entry. -/
def Ordered (d : List (String × α)) : Prop :=
  d.Pairwise fun a b => a.1 < b.1

instance (d : List (String × α)) : Decidable (Ordered d) :=
  inferInstanceAs (Decidable (d.Pairwise fun a b => a.1 < b.1))

/-- The dictionary with `v` under `k`: the entry at `k` is replaced, or a new one is put in its place. -/
def insert (k : String) (v : α) : List (String × α) → List (String × α)
  | [] => [(k, v)]
  | (k', v') :: d =>
    if k < k' then (k, v) :: (k', v') :: d
    else if k = k' then (k, v) :: d
    else (k', v') :: insert k v d

/-- The dictionary without the entries under `k`. -/
def erase (k : String) (d : List (String × α)) : List (String × α) :=
  d.filter fun entry => entry.1 ≠ k

/-- The entries of a list in order of their keys; of two entries under one key the later counts. -/
def ofList (l : List (String × α)) : List (String × α) :=
  l.foldl (fun d entry => insert entry.1 entry.2 d) []

/-! ### Look-up -/

theorem lookup_eq_none_of_notMem {k : String} {d : List (String × α)} (h : k ∉ d.map (·.1)) : d.lookup k = none := by
  refine List.lookup_eq_none_iff.mpr fun e he => bne_iff_ne.mpr fun heq => h ?_
  rw [heq]
  exact List.mem_map_of_mem he

@[simp] theorem lookup_insert_self (k : String) (v : α) (d : List (String × α)) :
    (insert k v d).lookup k = some v := by
  induction d with
  | nil => simp [insert]
  | cons e d ih =>
    obtain ⟨k', v'⟩ := e
    unfold insert
    split
    · simp
    · split
      · simp
      · rename_i hne
        rw [List.lookup_cons, beq_eq_false_iff_ne.mpr hne]
        exact ih

theorem lookup_insert_of_ne {k j : String} (h : j ≠ k) (v : α) (d : List (String × α)) :
    (insert k v d).lookup j = d.lookup j := by
  have hj : (j == k) = false := beq_eq_false_iff_ne.mpr h
  induction d with
  | nil => simp [insert, List.lookup_cons, hj]
  | cons e d ih =>
    obtain ⟨k', v'⟩ := e
    unfold insert
    split
    · simp [List.lookup_cons, hj]
    · split
      · rename_i heq
        subst heq
        simp [List.lookup_cons, hj]
      · simp [List.lookup_cons, ih]

@[simp] theorem lookup_erase_self (k : String) (d : List (String × α)) : (erase k d).lookup k = none := by
  rw [List.lookup_eq_none_iff]
  intro e he
  have := (List.mem_filter.mp he).2
  simp only [ne_eq, decide_not, Bool.not_eq_true', decide_eq_false_iff_not] at this
  simpa using fun h => this h.symm

theorem lookup_erase_of_ne {k j : String} (h : j ≠ k) (d : List (String × α)) :
    (erase k d).lookup j = d.lookup j := by
  induction d with
  | nil => rfl
  | cons e d ih =>
    obtain ⟨k', v'⟩ := e
    simp only [erase, ne_eq, decide_not] at ih ⊢
    by_cases hk : k' = k
    · subst hk
      simp [List.lookup_cons, beq_eq_false_iff_ne.mpr h, ih]
    · simp [List.lookup_cons, hk, ih]

/-- Erasing what is not there changes nothing. -/
theorem erase_of_lookup_eq_none {k : String} {d : List (String × α)} (h : d.lookup k = none) : erase k d = d := by
  rw [List.lookup_eq_none_iff] at h
  refine List.filter_eq_self.mpr fun entry hentry => decide_eq_true fun heq => ?_
  simpa [heq] using h entry hentry

/-! ### Repeated insertion -/

@[simp] theorem insert_insert (k : String) (v w : α) (d : List (String × α)) :
    insert k w (insert k v d) = insert k w d := by
  induction d with
  | nil => simp [insert]
  | cons e d ih =>
    obtain ⟨k', v'⟩ := e
    rw [insert.eq_2 k v]
    split
    · rename_i hlt
      simp [insert, hlt]
    · split
      · rename_i heq
        subst heq
        simp [insert]
      · rename_i hlt hne
        simp [insert, hlt, hne, ih]

/-- Putting back what is found changes nothing. -/
theorem insert_of_lookup_eq_some {k : String} {v : α} {d : List (String × α)} (hd : Ordered d)
    (h : d.lookup k = some v) : insert k v d = d := by
  induction d with
  | nil => simp at h
  | cons e d ih =>
    obtain ⟨k', v'⟩ := e
    rw [List.lookup_cons] at h
    unfold Ordered at hd
    rw [List.pairwise_cons] at hd
    unfold insert
    by_cases hk : k = k'
    · subst hk
      simp only [beq_self_eq_true, Option.some.injEq] at h
      simp [h]
    · rw [beq_eq_false_iff_ne.mpr hk] at h
      have hlt : ¬k < k' := by
        intro hlt
        obtain ⟨l₁, l₂, rfl, -⟩ := List.lookup_eq_some_iff.mp h
        have := hd.1 (k, v) (by simp)
        exact String.lt_irrefl k (String.lt_trans hlt this)
      simp [hlt, hk, ih hd.2 h]

/-! ### Entries -/

theorem mem_of_lookup {k : String} {v : α} {d : List (String × α)} (h : d.lookup k = some v) : (k, v) ∈ d := by
  obtain ⟨l₁, l₂, rfl, -⟩ := List.lookup_eq_some_iff.mp h
  exact List.mem_append_right l₁ (List.mem_cons_self ..)

/-- Each entry of a dictionary is found under its key. -/
theorem lookup_of_mem {k : String} {v : α} {d : List (String × α)} (hd : Ordered d) (h : (k, v) ∈ d) :
    d.lookup k = some v := by
  obtain ⟨l₁, l₂, rfl⟩ := List.append_of_mem h
  refine List.lookup_eq_some_iff.mpr ⟨l₁, l₂, rfl, fun e he => ?_⟩
  have hlt := (List.pairwise_append.mp hd).2.2 e he (k, v) (List.mem_cons_self ..)
  have hne : k ≠ e.1 := fun heq => String.lt_irrefl k (heq ▸ hlt)
  exact bne_iff_ne.mpr hne

/-! ### Order -/

theorem mem_insert {k : String} {v : α} {e : String × α} {d : List (String × α)} (h : e ∈ insert k v d) :
    e = (k, v) ∨ e ∈ d := by
  induction d with
  | nil => simpa [insert] using h
  | cons a d ih =>
    obtain ⟨k', v'⟩ := a
    unfold insert at h
    split at h
    · simpa using h
    · split at h
      · rcases List.mem_cons.mp h with rfl | h
        · exact .inl rfl
        · exact .inr (List.mem_cons_of_mem _ h)
      · rcases List.mem_cons.mp h with rfl | h
        · exact .inr (List.mem_cons_self ..)
        · exact (ih h).imp_right (List.mem_cons_of_mem _)

theorem Ordered.insert {d : List (String × α)} (hd : Ordered d) (k : String) (v : α) :
    Ordered (Dictionary.insert k v d) := by
  induction d with
  | nil => simp [Dictionary.insert, Ordered]
  | cons e d ih =>
    obtain ⟨k', v'⟩ := e
    unfold Ordered at hd
    rw [List.pairwise_cons] at hd
    unfold Dictionary.insert
    split
    · rename_i hlt
      refine List.pairwise_cons.mpr ⟨?_, List.pairwise_cons.mpr hd⟩
      intro a ha
      rcases List.mem_cons.mp ha with rfl | ha
      · exact hlt
      · exact String.lt_trans hlt (hd.1 a ha)
    · split
      · rename_i heq
        subst heq
        exact List.pairwise_cons.mpr hd
      · rename_i hlt hne
        refine List.pairwise_cons.mpr ⟨?_, ih hd.2⟩
        intro a ha
        rcases mem_insert ha with rfl | ha
        · exact Decidable.byContradiction fun hge =>
            hne (String.le_antisymm (String.not_lt.mp hge) (String.not_lt.mp hlt))
        · exact hd.1 a ha

theorem Ordered.erase {d : List (String × α)} (hd : Ordered d) (k : String) : Ordered (Dictionary.erase k d) :=
  hd.filter _

theorem ordered_ofList (l : List (String × α)) : Ordered (ofList l) := by
  suffices h : ∀ d : List (String × α), Ordered d →
      Ordered (l.foldl (fun d entry => insert entry.1 entry.2 d) d) from h [] List.Pairwise.nil
  induction l with
  | nil => exact fun d hd => hd
  | cons e l ih => exact fun d hd => ih _ (hd.insert e.1 e.2)

theorem mem_of_mem_ofList {e : String × α} {l : List (String × α)} (h : e ∈ ofList l) : e ∈ l := by
  suffices hfold : ∀ d : List (String × α),
      e ∈ l.foldl (fun d entry => insert entry.1 entry.2 d) d → e ∈ d ∨ e ∈ l from
    (hfold [] h).resolve_left List.not_mem_nil
  clear h
  induction l with
  | nil => exact fun d hd => .inl hd
  | cons a l ih =>
    intro d hd
    rcases ih _ hd with hd | hl
    · rcases mem_insert hd with rfl | hd
      · exact .inr (List.mem_cons_self ..)
      · exact .inl hd
    · exact .inr (List.mem_cons_of_mem _ hl)

/-- A key behind all others comes last. -/
theorem insert_eq_append {k : String} {d : List (String × α)} (h : ∀ e ∈ d, e.1 < k) (v : α) :
    insert k v d = d ++ [(k, v)] := by
  induction d with
  | nil => rfl
  | cons e d ih =>
    rw [List.forall_mem_cons] at h
    have hge : ¬k < e.1 := fun hlt => String.lt_irrefl k (String.lt_trans hlt h.1)
    have hne : k ≠ e.1 := by
      intro heq
      rw [heq] at h
      exact String.lt_irrefl _ h.1
    rw [insert, if_neg hge, if_neg hne, ih h.2, List.cons_append]

/-- The entries of an ordered list are taken over as they are. -/
theorem ofList_of_ordered {l : List (String × α)} (h : Ordered l) : ofList l = l := by
  suffices hfold : ∀ d : List (String × α), Ordered (d ++ l) →
      l.foldl (fun d entry => insert entry.1 entry.2 d) d = d ++ l from hfold [] h
  clear h
  induction l with
  | nil => exact fun d _ => (List.append_nil d).symm
  | cons e l ih =>
    intro d hd
    have hlast : ∀ a ∈ d, a.1 < e.1 := fun a ha => (List.pairwise_append.mp hd).2.2 a ha e (List.mem_cons_self ..)
    rw [List.foldl_cons, insert_eq_append hlast, ih, List.append_assoc, List.singleton_append]
    rw [List.append_assoc, List.singleton_append]
    exact hd

/-- Where no key comes twice, each is looked up as in the list. -/
theorem lookup_ofList {l : List (String × α)} (h : (l.map (·.1)).Nodup) (k : String) :
    (ofList l).lookup k = l.lookup k := by
  suffices hfold : ∀ d : List (String × α),
      (l.foldl (fun d entry => insert entry.1 entry.2 d) d).lookup k = (l.lookup k).or (d.lookup k) by
    have hempty := hfold []
    rwa [List.lookup_nil, Option.or_none] at hempty
  induction l with
  | nil => exact fun d => rfl
  | cons e l ih =>
    intro d
    rw [List.map_cons, List.nodup_cons] at h
    rw [List.foldl_cons, ih h.2]
    by_cases hk : k = e.1
    · subst hk
      rw [lookup_eq_none_of_notMem h.1, lookup_insert_self, List.lookup_cons_self]
      rfl
    · rw [lookup_insert_of_ne hk, List.lookup_cons, beq_eq_false_iff_ne.mpr hk]

end ConfigMigration.Dictionary

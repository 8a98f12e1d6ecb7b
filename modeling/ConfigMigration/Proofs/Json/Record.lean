import ConfigMigration.Proofs.Except
import ConfigMigration.Proofs.Json.Member
import ConfigMigration.Proofs.Json.Term

/-!
# Reading typed values

What the decoders make of the terms of values: strings, numbers, optional values, lists and records.  The members of
an object are read in their order, but what a record keeps of them does not depend on it: each field shows the
member under its name (`get?_of_readMembers`), and reading succeeds if each known member can be read
(`readMembers_isOk`).
-/

namespace ConfigMigration.Json

namespace Decoder

variable {α β ρ : Type}

/-! ### Scalars -/

theorem string_toTerm_eq_ok {depth : Nat} {value : Json} {s : String} :
    string depth value.toTerm = .ok s ↔ value.text? = some s := by
  cases value <;> simp [string, toTerm, Spelling.content, text?]

/-- A number is read if it is an integer in the range, which holds natural numbers of 64 bits only. -/
theorem integer_toTerm_eq_ok {ofInt? : Int → Option α}
    (hr : ∀ k a, ofInt? k = some a → ∃ n : Nat, k = n ∧ n ≤ Numeral.maxSignificand)
    {depth : Nat} {value : Json} {a : α} :
    integer ofInt? depth value.toTerm = .ok a ↔ ∃ k, value = ofInt k ∧ ofInt? k = some a := by
  constructor
  · intro h
    cases value with
    | number m =>
      rw [toTerm, integer] at h
      split at h
      · cases h
      · cases h
      · rename_i k hk
        cases ha : ofInt? k with
        | none => simp [ha] at h
        | some b =>
          obtain ⟨n, rfl, hn⟩ := hr k b ha
          simp only [ha, Option.elim, Except.ok.injEq] at h
          exact ⟨n, congrArg number ((Number.toNumber?_numeral_eq_integer_iff hn).mp hk), h ▸ ha⟩
    | _ => cases h
  · rintro ⟨k, rfl, ha⟩
    obtain ⟨n, rfl, hn⟩ := hr k a ha
    rw [ofInt, toTerm, integer, (Number.toNumber?_numeral_eq_integer_iff hn).mpr rfl]
    simp only [ha, Option.elim]

/-- A number is read if it is a natural number of 64 bits. -/
theorem uint64_toTerm_eq_ok {depth : Nat} {value : Json} {n : UInt64} :
    uint64 depth value.toTerm = .ok n ↔ value.uint64? = some n := by
  have hr : ∀ (k : Int) (m : UInt64), (ofInt k).uint64? = some m →
      ∃ n : Nat, k = n ∧ n ≤ Numeral.maxSignificand := by
    intro k m hk
    have hm := m.toNat_lt
    have : ofInt k = ofInt m.toNat := uint64?_eq_some_iff.mp hk
    simp only [ofInt, number.injEq, Number.integer.injEq] at this
    refine ⟨m.toNat, this, ?_⟩
    simp only [Numeral.maxSignificand, UInt64.size]
    omega
  refine (integer_toTerm_eq_ok hr).trans ⟨?_, ?_⟩
  · rintro ⟨k, rfl, hk⟩
    exact hk
  · intro hv
    have hv' := uint64?_eq_some_iff.mp hv
    exact ⟨n.toNat, hv', hv' ▸ hv⟩

/-! ### Optional values and lists -/

/-- Null is nothing, and any other value is read as it is. -/
theorem optional_toTerm_eq_ok {d : Decoder α} {f : Json → Option α} {depth : Nat} {value : Json}
    (hnull : f .null = none) (h : ∀ a, d depth value.toTerm = .ok a ↔ f value = some a) {o : Option α} :
    optional d depth value.toTerm = .ok o ↔ (value = .null ∨ (f value).isSome) ∧ o = f value := by
  have hread : value ≠ .null → optional d depth value.toTerm = some <$> d depth value.toTerm := by
    intro hne
    cases value <;> first | rfl | exact absurd rfl hne
  by_cases hv : value = .null
  · subst hv
    simp only [toTerm, optional, Except.ok.injEq, hnull, true_or, true_and]
    exact eq_comm
  · rw [hread hv]
    cases hd : d depth value.toTerm with
    | error e =>
      have hnone : f value = none := by
        cases hf : f value with
        | none => rfl
        | some a => exact absurd ((h a).mpr hf) (by simp [hd])
      simp [Functor.map, Except.map, hv, hnone]
    | ok a =>
      rw [(h a).mp hd]
      simp only [Functor.map, Except.map, Except.ok.injEq, Option.isSome_some, or_true, true_and]
      exact eq_comm

private theorem mapM_toTerm_eq_ok {d : Decoder α} {P : Json → Prop} {f : Json → α} {depth : Nat} {items : List Json}
    (h : ∀ item ∈ items, ∀ a, d depth item.toTerm = .ok a ↔ P item ∧ a = f item) {l : List α} :
    (items.map toTerm).mapM (d depth) = .ok l ↔ (∀ item ∈ items, P item) ∧ l = items.map f := by
  induction items generalizing l with
  | nil =>
    simp only [List.map_nil, List.mapM_nil, pure, Except.pure, Except.ok.injEq, List.not_mem_nil, false_implies,
      implies_true, true_and]
    exact eq_comm
  | cons item items ih =>
    have ih := fun {l} => ih (fun i hi => h i (List.mem_cons_of_mem _ hi)) (l := l)
    have hitem := h item (List.mem_cons_self ..)
    rw [List.map_cons, List.mapM_cons, List.map_cons, List.forall_mem_cons]
    constructor
    · intro hl
      obtain ⟨a, ha, hl⟩ := exists_of_bind_eq_ok hl
      obtain ⟨as, has, hl⟩ := exists_of_bind_eq_ok hl
      cases hl
      obtain ⟨hp, rfl⟩ := (hitem a).mp ha
      obtain ⟨hps, rfl⟩ := ih.mp has
      exact ⟨⟨hp, hps⟩, rfl⟩
    · rintro ⟨⟨hp, hps⟩, rfl⟩
      simp only [(hitem _).mpr ⟨hp, rfl⟩, ih.mpr ⟨hps, rfl⟩, bind, Except.bind, pure, Except.pure]

/-- A list is read if each of its items is. -/
theorem list_toTerm_eq_ok {d : Decoder α} {P : Json → Prop} {f : Json → α} {depth : Nat} {items : List Json}
    (h : ∀ item ∈ items, ∀ a, d depth item.toTerm = .ok a ↔ P item ∧ a = f item) {l : List α} :
    list d (depth + 1) (array items).toTerm = .ok l ↔ (∀ item ∈ items, P item) ∧ l = items.map f := by
  rw [← mapM_toTerm_eq_ok h, toTerm, itemTerms_eq_map, list, deeper]
  cases (items.map toTerm).mapM (d depth) <;> rfl

theorem eq_array_of_list_toTerm {d : Decoder α} {depth : Nat} {value : Json} {l : List α}
    (h : list d depth value.toTerm = .ok l) : ∃ items, value = array items := by
  cases value with
  | array items => exact ⟨items, rfl⟩
  | _ => cases h

/-- A list of written values is read back if each of them is. -/
theorem list_write {d : Decoder α} {write : α → Json} {depth : Nat} {l : List α}
    (h : ∀ a ∈ l, d depth (write a).toTerm = .ok a) : list d (depth + 1) (array (l.map write)).toTerm = .ok l := by
  have hread : (itemTerms (l.map write)).mapM (d depth) = .ok l := by
    induction l with
    | nil => rfl
    | cons a l ih =>
      rw [List.forall_mem_cons] at h
      rw [List.map_cons, itemTerms, List.mapM_cons, h.1, ih h.2]
      rfl
  rw [toTerm, list, deeper, hread]
  rfl

/-- A dictionary of written values is read back, in the same order, if each of them is. -/
theorem dictionary_write {d : Decoder α} {write : α → Json} {depth : Nat} {entries : List (String × α)}
    (ho : Dictionary.Ordered entries) (h : ∀ entry ∈ entries, d depth (write entry.2).toTerm = .ok entry.2) :
    dictionary d (depth + 1) (object (entries.map fun entry => (entry.1, write entry.2))).toTerm = .ok entries := by
  have hread : (memberTerms (entries.map fun entry => (entry.1, write entry.2))).mapM (fun member => do
      let name ← member.1.content
      return (name, ← d depth member.2)) = .ok entries := by
    clear ho
    induction entries with
    | nil => rfl
    | cons entry entries ih =>
      rw [List.forall_mem_cons] at h
      rw [List.map_cons, memberTerms, List.mapM_cons, ih h.2]
      simp only [Spelling.content, h.1, bind, Except.bind]
      rfl
  rw [toTerm, dictionary, deeper, hread]
  exact congrArg Except.ok (Dictionary.ofList_of_ordered ho)

/-! ### Records -/

@[simp] theorem Field.name_of {name : String} {get? : ρ → Option β} {set : ρ → β → ρ} {d : Decoder β}
    {mayEnd : Bool} : (Field.of name get? set d mayEnd).name = name := rfl

@[simp] theorem Field.isSet_of {name : String} {get? : ρ → Option β} {set : ρ → β → ρ} {d : Decoder β}
    {mayEnd : Bool} {record : ρ} : (Field.of name get? set d mayEnd).isSet record = (get? record).isSome := rfl

@[simp] theorem Field.read_of_eq_ok {name : String} {get? : ρ → Option β} {set : ρ → β → ρ} {d : Decoder β}
    {mayEnd : Bool} {record r : ρ} {depth : Nat} {t : Term} :
    (Field.of name get? set d mayEnd).read record depth t = .ok r ↔ ∃ b, d depth t = .ok b ∧ set record b = r := by
  cases h : d depth t <;> simp [Field.of, h, Functor.map, Except.map]

theorem readMembers_member {fields : List (Field ρ)} {field : Field ρ} {depth : Nat} {record r : ρ} {name : String}
    {value : Json} {members : List (String × Json)} (hfield : fields.find? (·.name = name) = some field)
    (hset : field.isSet record = false) (hread : field.read record depth value.toTerm = .ok r) :
    readMembers fields depth record (memberTerms ((name, value) :: members)) =
      readMembers fields depth r (memberTerms members) := by
  rw [memberTerms, readMembers]
  simp only [Spelling.content, bind, Except.bind, hfield, hset, hread]
  rfl

/-- One of the fields of a record keeps under `get?` what `d` reads, and no other field touches it. -/
structure Keeps (fields : List (Field ρ)) (name : String) (get? : ρ → Option β) (d : Decoder β) : Prop where
  known : ∃ field ∈ fields, field.name = name
  self : ∀ field ∈ fields, field.name = name → ∀ (record : ρ) (depth : Nat) (t : Term) (r : ρ),
    field.read record depth t = .ok r → ∃ b, d depth t = .ok b ∧ get? r = some b
  other : ∀ field ∈ fields, field.name ≠ name → ∀ (record : ρ) (depth : Nat) (t : Term) (r : ρ),
    field.read record depth t = .ok r → get? r = get? record

/-- Of a record that has been read, each field shows the member under its name. -/
theorem get?_of_readMembers {fields : List (Field ρ)} {name : String} {get? : ρ → Option β} {d : Decoder β}
    (hk : Keeps fields name get? d) {depth : Nat} {members : List (String × Json)}
    (hn : (members.map (·.1)).Nodup) {record r : ρ}
    (h : readMembers fields depth record (memberTerms members) = .ok r) :
    match members.lookup name with
    | none => get? r = get? record
    | some value => ∃ b, d depth value.toTerm = .ok b ∧ get? r = some b := by
  induction members generalizing record with
  | nil =>
    rw [memberTerms, readMembers, Except.ok.injEq] at h
    subst h
    rfl
  | cons member members ih =>
    obtain ⟨key, value⟩ := member
    rw [List.map_cons, List.nodup_cons] at hn
    rw [memberTerms, readMembers] at h
    simp only [Spelling.content, bind, Except.bind, fault?_toTerm, check] at h
    have hrest : ∀ record' : ρ, readMembers fields depth record' (memberTerms members) = .ok r →
        key = name → get? r = get? record' := by
      rintro record' hr rfl
      have := ih hn.2 hr
      rwa [Dictionary.lookup_eq_none_of_notMem hn.1] at this
    by_cases hkey : name = key
    · subst hkey
      rw [List.lookup_cons_self]
      split at h
      · rename_i field hfield
        have hname : field.name = name := by simpa using List.find?_some hfield
        split at h
        · cases h
        · split at h
          · cases h
          · rename_i record' hread
            obtain ⟨b, hb, hget⟩ := hk.self field (List.mem_of_find?_eq_some hfield) hname _ _ _ _ hread
            exact ⟨b, hb, (hrest record' h rfl).trans hget⟩
      · rename_i hfield
        obtain ⟨field, hmem, hname⟩ := hk.known
        exact absurd hname (by simpa using List.find?_eq_none.mp hfield field hmem)
    · rw [List.lookup_cons, beq_eq_false_iff_ne.mpr hkey]
      split at h
      · rename_i field hfield
        have hname : field.name ≠ name := by
          have : field.name = key := by simpa using List.find?_some hfield
          exact fun heq => hkey (heq.symm.trans this)
        split at h
        · cases h
        · split at h
          · cases h
          · rename_i record' hread
            have := ih hn.2 h
            rwa [hk.other field (List.mem_of_find?_eq_some hfield) hname _ _ _ _ hread] at this
      · exact ih hn.2 h

/-- An optional field shows nothing where the member is missing or null, and else what is read of it. -/
theorem join_get?_of_readMembers {fields : List (Field ρ)} (name : String) (get? : ρ → Option (Option β))
    {d : Decoder β} {f : Json → Option β} (hk : Keeps fields name get? (optional d)) (hnull : f .null = none)
    (hd : ∀ depth value b, d depth value.toTerm = .ok b ↔ f value = some b) {depth : Nat}
    {members : List (String × Json)} (hn : (members.map (·.1)).Nodup) {record r : ρ} (hblank : get? record = none)
    (h : readMembers fields depth record (memberTerms members) = .ok r) :
    (∀ field, members.lookup name = some field → field = .null ∨ (f field).isSome) ∧
      (get? r).join = (members.lookup name).bind f := by
  have hget := get?_of_readMembers hk hn h
  cases hl : members.lookup name with
  | none =>
    simp only [hl] at hget
    rw [hget, hblank]
    exact ⟨(fun _ hf => nomatch hf), rfl⟩
  | some value =>
    simp only [hl] at hget
    obtain ⟨o, ho, hget⟩ := hget
    obtain ⟨hkind, rfl⟩ := (optional_toTerm_eq_ok hnull (hd depth value)).mp ho
    refine ⟨?_, by rw [hget]; rfl⟩
    intro field hfield
    rw [← Option.some.inj hfield]
    exact hkind

/-- A list field shows what is read of the items of the list under its name. -/
theorem getD_get?_of_readMembers {fields : List (Field ρ)} (name : String) (get? : ρ → Option (List β))
    {d : Decoder β} {P : Json → Prop} {f : Json → β} (hk : Keeps fields name get? (list d)) {depth : Nat}
    {members : List (String × Json)}
    (hd : ∀ item ∈ (object members).itemsAt name, ∀ b, d depth item.toTerm = .ok b ↔ P item ∧ b = f item)
    (hn : (members.map (·.1)).Nodup) {record r : ρ} (hblank : get? record = none)
    (h : readMembers fields (depth + 1) record (memberTerms members) = .ok r) :
    (object members).IsListAt name ∧ (∀ item ∈ (object members).itemsAt name, P item) ∧
      (get? r).getD [] = ((object members).itemsAt name).map f := by
  have hget := get?_of_readMembers hk hn h
  unfold IsListAt itemsAt at *
  simp only [member?] at hd ⊢
  cases hl : members.lookup name with
  | none =>
    simp only [hl] at hget
    rw [hget, hblank]
    exact ⟨(fun _ hf => nomatch hf), (fun _ hi => nomatch hi), rfl⟩
  | some value =>
    simp only [hl] at hget hd
    obtain ⟨l, hread, hget⟩ := hget
    obtain ⟨items, rfl⟩ := eq_array_of_list_toTerm hread
    obtain ⟨hall, rfl⟩ := (list_toTerm_eq_ok hd).mp hread
    rw [hget]
    exact ⟨fun _ hf => ⟨items, (Option.some.inj hf).symm⟩, hall, rfl⟩

/-- An object is read if each known member can be read and leaves the other fields unset. -/
theorem readMembers_isOk {fields : List (Field ρ)} {depth : Nat} {members : List (String × Json)}
    (hn : (members.map (·.1)).Nodup) {record : ρ}
    (hread : ∀ field ∈ fields, ∀ value, members.lookup field.name = some value → ∀ record : ρ,
      ∃ r, field.read record depth value.toTerm = .ok r ∧
        ∀ other ∈ fields, other.name ≠ field.name → other.isSet r = other.isSet record)
    (hset : ∀ field ∈ fields, field.isSet record = true → members.lookup field.name = none) :
    ∃ r, readMembers fields depth record (memberTerms members) = .ok r := by
  induction members generalizing record with
  | nil => exact ⟨record, rfl⟩
  | cons member members ih =>
    obtain ⟨key, value⟩ := member
    rw [List.map_cons, List.nodup_cons] at hn
    rw [memberTerms, readMembers]
    simp only [Spelling.content, bind, Except.bind, fault?_toTerm, check]
    have hne : ∀ {name field}, members.lookup name = some field → name ≠ key := by
      rintro name field hl rfl
      obtain ⟨l₁, l₂, hl, -⟩ := List.lookup_eq_some_iff.mp hl
      exact hn.1 (by simp [hl])
    have htail : ∀ {name field}, members.lookup name = some field →
        ((key, value) :: members).lookup name = some field := by
      intro name field hl
      rw [List.lookup_cons, beq_eq_false_iff_ne.mpr (hne hl)]
      exact hl
    have hread' : ∀ field ∈ fields, ∀ value, members.lookup field.name = some value → ∀ record : ρ,
        ∃ r, field.read record depth value.toTerm = .ok r ∧
          ∀ other ∈ fields, other.name ≠ field.name → other.isSet r = other.isSet record :=
      fun field hf value hl => hread field hf value (htail hl)
    have hset' : ∀ field ∈ fields, field.name ≠ key → field.isSet record = true →
        members.lookup field.name = none := by
      intro field hf hne hs
      have := hset field hf hs
      rwa [List.lookup_cons, beq_eq_false_iff_ne.mpr hne] at this
    split
    · rename_i field hfield
      have hmem := List.mem_of_find?_eq_some hfield
      have hname : field.name = key := by simpa using List.find?_some hfield
      have hlookup : ((key, value) :: members).lookup field.name = some value := by
        rw [hname, List.lookup_cons_self]
      obtain ⟨record', hr, hother⟩ := hread field hmem value hlookup record
      rw [if_neg (fun hs => by rw [hset field hmem hs] at hlookup; cases hlookup), hr]
      refine ih hn.2 hread' fun other ho hs => ?_
      cases hl : members.lookup other.name with
      | none => rfl
      | some field' =>
        have hok := hne hl
        rw [hother other ho (hname ▸ hok)] at hs
        rw [hset' other ho hok hs] at hl
        cases hl
    · refine ih hn.2 hread' fun other ho hs => ?_
      cases hl : members.lookup other.name with
      | none => rfl
      | some field' => rw [hset' other ho (hne hl) hs] at hl; cases hl

/-- An object is read as a record if its members are, and the record is complete. -/
theorem record_toTerm_eq_ok {fields : List (Field ρ)} {blank : ρ} {finish : ρ → Option α} {depth : Nat}
    {members : List (String × Json)} {a : α} :
    record fields blank finish (depth + 1) (object members).toTerm = .ok a ↔
      ∃ r, readMembers fields depth blank (memberTerms members) = .ok r ∧ finish r = some a := by
  rw [toTerm, record, deeper]
  cases readMembers fields depth blank (memberTerms members) with
  | error e => simp [bind, Except.bind]
  | ok r =>
    simp only [bind, Except.bind, check, Except.ok.injEq, exists_eq_left']
    cases finish r <;> simp

end Decoder

end ConfigMigration.Json

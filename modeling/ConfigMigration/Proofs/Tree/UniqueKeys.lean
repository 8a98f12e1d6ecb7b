import ConfigMigration.Proofs.Tree.Steps
import Mathlib.Data.Set.Defs

/-!
# Lists with unique keys

A schema gives each list its key names.  Two entries of a list agree if they show the same texts under all of these
names; an entry that lacks one of them agrees with none.  A tree in which no two entries of a list agree keeps this
through every removal (`hasUniqueKeys_removeAt`), and through every writing along elements that have exactly the key
names of their lists, if the leaf is no key field of the entry it is written into (`hasUniqueKeys_of_writeAt`).
-/

namespace ConfigMigration

open ConfigMigration.Tree

/-- Whether the keys of an element, if it has any, are those of the list that it leads to. -/
def PathElem.UsesKeys (keys : String → Set String) (e : PathElem) : Prop :=
  e.keys.isEmpty = false → ∀ name, name ∈ e.keys.names ↔ name ∈ keys e.name

theorem PathElem.usesKeys_of_isEmpty {keys : String → Set String} {e : PathElem} (h : e.keys.isEmpty = true) :
    e.UsesKeys keys := by
  intro hkeyed
  rw [h] at hkeyed
  cases hkeyed

namespace Json

/-- Whether two entries show the same texts under all of some names. -/
def AgreeOn (names : Set String) (a b : Json) : Prop :=
  ∀ name ∈ names, ∃ text, a.keyText? name = some text ∧ b.keyText? name = some text

/-- Whether no two entries agree on some names. -/
def DifferOn (names : Set String) (items : List Json) : Prop := items.Pairwise fun a b => ¬AgreeOn names a b

/-- In every list under a name, however deep, no two entries agree on the key names of the list. -/
inductive HasUniqueKeys (keys : String → Set String) : Json → Prop where
  | null : HasUniqueKeys keys .null
  | bool (b : Bool) : HasUniqueKeys keys (.bool b)
  | number (n : Number) : HasUniqueKeys keys (.number n)
  | string (s : String) : HasUniqueKeys keys (.string s)
  | array {items : List Json} (hitems : ∀ item ∈ items, HasUniqueKeys keys item) : HasUniqueKeys keys (.array items)
  | object {members : List (String × Json)} (hmembers : ∀ member ∈ members, HasUniqueKeys keys member.2)
      (hlists : ∀ name items, (name, .array items) ∈ members → DifferOn (keys name) items) :
      HasUniqueKeys keys (.object members)

/-- Whether a value has unique keys, and, if it is a list, as a list under a name. -/
def HasUniqueKeysAt (keys : String → Set String) (name : String) (field : Json) : Prop :=
  field.HasUniqueKeys keys ∧ ∀ items, field = .array items → DifferOn (keys name) items

variable {keys : String → Set String} {names : Set String} {name : String} {value field : Json}
  {items front back : List Json} {a b : Json}

/-! ### Entries that agree -/

theorem AgreeOn.symm (h : AgreeOn names a b) : AgreeOn names b a := by
  intro name hname
  obtain ⟨text, ha, hb⟩ := h name hname
  exact ⟨text, hb, ha⟩

/-- An entry that takes the place of another one may agree with no more entries than that one. -/
theorem DifferOn.replace (h : DifferOn names (front ++ a :: back))
    (hab : ∀ c, AgreeOn names b c → AgreeOn names a c) : DifferOn names (front ++ b :: back) := by
  have hsymm : ∀ {c d : Json}, ¬AgreeOn names c d → ¬AgreeOn names d c := fun hcd hdc => hcd hdc.symm
  unfold DifferOn at h ⊢
  rw [List.pairwise_middle hsymm, List.pairwise_cons] at h ⊢
  exact ⟨fun c hc hbc => h.1 c hc (hab c hbc), h.2⟩

theorem DifferOn.concat (h : DifferOn names items) (hb : ∀ c ∈ items, ¬AgreeOn names c b) :
    DifferOn names (items ++ [b]) := by
  refine List.pairwise_append.mpr ⟨h, List.pairwise_singleton _ _, fun c hc d hd => ?_⟩
  rw [List.mem_singleton.mp hd]
  exact hb c hc

/-! ### Members and items -/

theorem hasUniqueKeys_object_iff {members : List (String × Json)} :
    (object members).HasUniqueKeys keys ↔ ∀ member ∈ members, HasUniqueKeysAt keys member.1 member.2 := by
  constructor
  · rintro (_ | _ | _ | _ | _ | ⟨hmembers, hlists⟩)
    intro member hmember
    exact ⟨hmembers member hmember, fun items hitems => hlists member.1 items (hitems ▸ hmember)⟩
  · intro h
    exact .object (fun member hmember => (h member hmember).1)
      fun name items hmember => (h (name, .array items) hmember).2 items rfl

theorem hasUniqueKeysAt_array_iff :
    HasUniqueKeysAt keys name (array items) ↔
      (∀ item ∈ items, item.HasUniqueKeys keys) ∧ DifferOn (keys name) items := by
  constructor
  · rintro ⟨_ | _ | _ | _ | hitems | _, hlist⟩
    exact ⟨hitems, hlist items rfl⟩
  · rintro ⟨hitems, hlist⟩
    exact ⟨.array hitems, fun items' heq => array.inj heq ▸ hlist⟩

theorem hasUniqueKeysAt_of_isObject (h : field.HasUniqueKeys keys) (ho : field.isObject = true) :
    HasUniqueKeysAt keys name field := by
  refine ⟨h, ?_⟩
  rintro items rfl
  cases ho

theorem hasUniqueKeysAt_of_scalarText? (h : field.scalarText?.isSome = true) : HasUniqueKeysAt keys name field := by
  cases field with
  | bool b => exact ⟨.bool b, by simp⟩
  | number n => exact ⟨.number n, by simp⟩
  | string s => exact ⟨.string s, by simp⟩
  | _ => cases h

theorem hasUniqueKeys_of_scalars {members : List (String × Json)}
    (h : ∀ member ∈ members, member.2.scalarText?.isSome = true) : (object members).HasUniqueKeys keys :=
  hasUniqueKeys_object_iff.mpr fun member hmember => hasUniqueKeysAt_of_scalarText? (h member hmember)

namespace HasUniqueKeys

theorem emptyObject : Json.emptyObject.HasUniqueKeys keys :=
  hasUniqueKeys_of_scalars fun _ h => absurd h List.not_mem_nil

theorem member? (h : value.HasUniqueKeys keys) (hf : value.member? name = some field) :
    HasUniqueKeysAt keys name field := by
  cases value with
  | object members => exact hasUniqueKeys_object_iff.mp h (name, field) (Dictionary.mem_of_lookup hf)
  | _ => cases hf

theorem setMember (h : value.HasUniqueKeys keys) (hfield : HasUniqueKeysAt keys name field) :
    (value.setMember name field).HasUniqueKeys keys := by
  cases value with
  | object members =>
    rw [hasUniqueKeys_object_iff] at h
    refine hasUniqueKeys_object_iff.mpr fun member hmember => ?_
    rcases Dictionary.mem_insert hmember with rfl | hmember
    · exact hfield
    · exact h member hmember
  | _ => exact h

theorem mapMember (h : value.HasUniqueKeys keys) {f : Json → Json}
    (hf : ∀ field, HasUniqueKeysAt keys name field → HasUniqueKeysAt keys name (f field)) :
    (mapMember name f value).HasUniqueKeys keys := by
  cases value with
  | object members =>
    rw [hasUniqueKeys_object_iff] at h
    refine hasUniqueKeys_object_iff.mpr fun member hmember => ?_
    rcases mem_mapFirst hmember with hmember | ⟨member', hmember', hname, rfl⟩
    · exact h member hmember
    · have hfield := h member' hmember'
      rw [of_decide_eq_true hname] at hfield ⊢
      exact hf _ hfield
  | _ => exact h

end HasUniqueKeys

theorem HasUniqueKeysAt.mapItems (h : HasUniqueKeysAt keys name field) {f : List Json → List Json}
    (hf : ∀ items, (∀ item ∈ items, item.HasUniqueKeys keys) → DifferOn (keys name) items →
      (∀ item ∈ f items, item.HasUniqueKeys keys) ∧ DifferOn (keys name) (f items)) :
    HasUniqueKeysAt keys name (mapItems f field) := by
  cases field with
  | array items =>
    obtain ⟨hitems, hlist⟩ := hasUniqueKeysAt_array_iff.mp h
    exact hasUniqueKeysAt_array_iff.mpr (hf items hitems hlist)
  | _ => exact h

/-! ### Entries that have the keys of an element -/

theorem agreeOn_of_matchesKeys {elemKeys : Keys} (hkeys : ∀ name ∈ names, name ∈ elemKeys.names)
    (ha : matchesKeys elemKeys a = true) (hb : matchesKeys elemKeys b = true) : AgreeOn names a b := by
  intro name hname
  obtain ⟨key, hkey, rfl⟩ := List.mem_map.mp (hkeys name hname)
  exact ⟨key.2, matchesKeys_iff.mp ha key hkey, matchesKeys_iff.mp hb key hkey⟩

theorem matchesKeys_of_agreeOn {elemKeys : Keys} (hkeys : ∀ name ∈ elemKeys.names, name ∈ names)
    (ha : matchesKeys elemKeys a = true) (hab : AgreeOn names a b) : matchesKeys elemKeys b = true := by
  refine matchesKeys_iff.mpr fun key hkey => ?_
  obtain ⟨text, hatext, hbtext⟩ := hab key.1 (hkeys key.1 (List.mem_map_of_mem hkey))
  rw [hbtext, ← hatext, matchesKeys_iff.mp ha key hkey]

theorem hasUniqueKeys_entryOfKeys (elemKeys : Keys) : (entryOfKeys elemKeys).HasUniqueKeys keys := by
  refine hasUniqueKeys_of_scalars fun member hmember => ?_
  obtain ⟨key, -, rfl⟩ := List.mem_map.mp hmember
  rfl

/-- An element with the key names of its list leads to one entry at most. -/
theorem HasUniqueKeys.length_filter_le_one (h : value.HasUniqueKeys keys) {e : PathElem} (he : e.UsesKeys keys)
    (hkeyed : e.keys.isEmpty = false) (hm : value.member? e.name = some (.array items)) :
    (items.filter (matchesKeys e.keys)).length ≤ 1 := by
  have hdiffer := (hasUniqueKeysAt_array_iff.mp (h.member? hm)).2
  have hmatching : DifferOn (keys e.name) (items.filter (matchesKeys e.keys)) := hdiffer.filter _
  cases hfilter : items.filter (matchesKeys e.keys) with
  | nil => exact Nat.zero_le 1
  | cons a rest =>
    cases rest with
    | nil => exact Nat.le_refl 1
    | cons b rest =>
      have hmatches : ∀ c ∈ items.filter (matchesKeys e.keys), matchesKeys e.keys c = true :=
        fun c hc => (List.mem_filter.mp hc).2
      unfold DifferOn at hmatching
      rw [hfilter, List.pairwise_cons] at hmatching
      rw [hfilter, List.forall_mem_cons, List.forall_mem_cons] at hmatches
      have hagree := agreeOn_of_matchesKeys (fun name => (he hkeyed name).mpr) hmatches.1 hmatches.2.1
      exact absurd hagree (hmatching.1 b (List.mem_cons_self ..))

end Json

namespace Tree

open Json

variable {keys : String → Set String} {e : PathElem} {elems : List PathElem} {node node' : Json}

/-! ### Looking up -/

theorem hasUniqueKeys_of_find? (h : node.HasUniqueKeys keys) (hf : find? elems node = some node') :
    node'.HasUniqueKeys keys := by
  induction elems generalizing node with
  | nil =>
    rw [← Option.some.inj hf]
    exact h
  | cons e elems ih =>
    obtain ⟨child, hchild, hf⟩ := Option.bind_eq_some_iff.mp hf
    refine ih ?_ hf
    obtain ⟨field, hfield, hchild⟩ := Option.bind_eq_some_iff.mp hchild
    have hunique := h.member? hfield
    split at hchild
    · rw [← Option.some.inj hchild]
      exact hunique.1
    · obtain ⟨items, hitems, hchild⟩ := Option.bind_eq_some_iff.mp hchild
      cases field with
      | array items' =>
        obtain rfl := Option.some.inj hitems
        exact (hasUniqueKeysAt_array_iff.mp hunique).1 child (List.mem_of_find?_eq_some hchild)
      | _ => cases hitems

/-! ### Writing -/

/-- Changing the first entry that has the keys of an element keeps the entries apart: the entry still has them, and
one that is made has keys that no other entry has. -/
private theorem hasUniqueKeysAt_changeFirst {f : Json → Except WriteFault Json} {items items' : List Json}
    (hkeys : ∀ name, name ∈ e.keys.names ↔ name ∈ keys e.name)
    (hunique : ∀ a b, a.HasUniqueKeys keys → f a = .ok b → b.HasUniqueKeys keys)
    (hmatches : ∀ a b, matchesKeys e.keys a = true → f a = .ok b → matchesKeys e.keys b = true)
    (h : HasUniqueKeysAt keys e.name (.array items))
    (hchange : changeFirst (matchesKeys e.keys) f (entryOfKeys e.keys) items = .ok items') :
    HasUniqueKeysAt keys e.name (.array items') := by
  rw [hasUniqueKeysAt_array_iff] at h ⊢
  obtain ⟨hitems, hdiffer⟩ := h
  rcases changeFirst_cases hchange with ⟨front, a, back, b, rfl, -, ha, hb, rfl⟩ | ⟨b, hnone, hb, rfl⟩
  · rw [List.forall_mem_append, List.forall_mem_cons] at hitems ⊢
    refine ⟨⟨hitems.1, hunique a b hitems.2.1 hb, hitems.2.2⟩, hdiffer.replace fun c hbc => ?_⟩
    have hc := matchesKeys_of_agreeOn (fun name => (hkeys name).mp) (hmatches a b ha hb) hbc
    exact agreeOn_of_matchesKeys (fun name => (hkeys name).mpr) ha hc
  · have hbkeys := hmatches _ b (matchesKeys_entryOfKeys e.keys) hb
    rw [List.forall_mem_append, List.forall_mem_singleton]
    refine ⟨⟨hitems, hunique _ b (hasUniqueKeys_entryOfKeys e.keys) hb⟩, hdiffer.concat fun c hc hcb => ?_⟩
    have hmatch := matchesKeys_of_agreeOn (fun name => (hkeys name).mp) hbkeys hcb.symm
    rw [hnone c hc] at hmatch
    cases hmatch

/-- Writing keeps keys unique along elements with the key names of their lists, if the leaf is no key field of the
last one. -/
theorem hasUniqueKeys_of_writeAt {leaf : String} {value : Json} (hvalue : value.scalarText?.isSome = true)
    (hkeys : ∀ e ∈ elems, e.UsesKeys keys) (hleaf : ∀ e, elems.getLast? = some e → leaf ∉ e.keys.names)
    (h : node.HasUniqueKeys keys) (hwrite : writeAt leaf value elems node = .ok node') :
    node'.HasUniqueKeys keys := by
  induction elems generalizing node node' with
  | nil =>
    cases node with
    | object members =>
      cases hwrite
      exact h.setMember (hasUniqueKeysAt_of_scalarText? hvalue)
    | _ => cases hwrite
  | cons e elems ih =>
    rw [List.forall_mem_cons] at hkeys
    have hleaf' : ∀ e', elems.getLast? = some e' → leaf ∉ e'.keys.names := by
      intro e' he'
      refine hleaf e' ?_
      rw [List.getLast?_cons, he']
      rfl
    have hstep : ∀ a b, a.HasUniqueKeys keys → writeAt leaf value elems a = .ok b → b.HasUniqueKeys keys :=
      fun a b ha hb => ih hkeys.2 hleaf' ha hb
    obtain ⟨-, ⟨-, child, hchild, rfl⟩ | ⟨hkeyed, items, items', hitems, hchange, rfl⟩⟩ := changeChild_cases hwrite
    · have hold : ((node.member? e.name).getD .emptyObject).HasUniqueKeys keys := by
        cases hm : node.member? e.name with
        | none => exact .emptyObject
        | some field => exact (h.member? hm).1
      exact h.setMember (hasUniqueKeysAt_of_isObject (hstep _ _ hold hchild) (isObject_of_writeAt hchild).2)
    · have hold : HasUniqueKeysAt keys e.name (.array items) := by
        rw [← hitems]
        cases hm : node.member? e.name with
        | none => exact hasUniqueKeysAt_array_iff.mpr ⟨fun _ hi => absurd hi List.not_mem_nil, List.Pairwise.nil⟩
        | some field => exact h.member? hm
      have hmatches : ∀ a b, matchesKeys e.keys a = true → writeAt leaf value elems a = .ok b →
          matchesKeys e.keys b = true := by
        intro a b ha hb
        refine matchesKeys_iff.mpr fun key hkey => ?_
        have hne : elems = [] → key.1 ≠ leaf := by
          rintro rfl rfl
          exact hleaf e rfl (List.mem_map_of_mem hkey)
        rw [keyText?_writeAt hb hne]
        exact matchesKeys_iff.mp ha key hkey
      exact h.setMember (hasUniqueKeysAt_changeFirst (hkeys.1 hkeyed) hstep hmatches hold hchange)

/-! ### Removing -/

theorem hasUniqueKeys_removeChild (h : node.HasUniqueKeys keys) : (removeChild e node).HasUniqueKeys keys := by
  unfold removeChild
  split
  · cases node with
    | object members =>
      rw [hasUniqueKeys_object_iff] at h
      exact hasUniqueKeys_object_iff.mpr fun member hmember => h member (List.mem_filter.mp hmember).1
    | _ => exact h
  · refine h.mapMember fun field hfield => hfield.mapItems fun items hitems hdiffer => ?_
    exact ⟨fun item hitem => hitems item (List.mem_filter.mp hitem).1, hdiffer.filter _⟩

/-- Removing keeps keys unique, whatever the keys of the elements are. -/
theorem hasUniqueKeys_removeAt (elems : List PathElem) (h : node.HasUniqueKeys keys) :
    (removeAt elems node).HasUniqueKeys keys := by
  induction elems generalizing node with
  | nil => exact .emptyObject
  | cons e elems ih =>
    cases elems with
    | nil => exact hasUniqueKeys_removeChild h
    | cons e' elems =>
      have hne : e' :: elems ≠ [] := List.cons_ne_nil _ _
      rw [removeAt, mapChild]
      · refine h.mapMember fun field hfield => ?_
        split
        · -- a list is left as it is, for no member of it is named
          cases hobject : field.isObject with
          | true => exact hasUniqueKeysAt_of_isObject (ih hfield.1) (isObject_removeAt _ hobject)
          | false => rwa [removeAt_eq_self hne hobject]
        · refine hfield.mapItems fun items hitems hdiffer => ?_
          have hcases := mapFirst_cases (p := matchesKeys e.keys) (f := removeAt (e' :: elems)) (l := items)
          rcases hcases with heq | ⟨front, a, back, rfl, -, heq⟩
          · rw [heq]
            exact ⟨hitems, hdiffer⟩
          · rw [List.forall_mem_append, List.forall_mem_cons] at hitems
            rw [heq, List.forall_mem_append, List.forall_mem_cons]
            refine ⟨⟨hitems.1, ih hitems.2.1, hitems.2.2⟩, hdiffer.replace fun c hagree name hname => ?_⟩
            obtain ⟨text, ha, hc⟩ := hagree name hname
            exact ⟨text, keyText?_of_removeAt hne ha, hc⟩
      · exact hne

end Tree

end ConfigMigration

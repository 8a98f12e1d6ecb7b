import ConfigMigration.Proofs.Tree.Steps

/-!
# Entries of lists

What the editing of trees does along elements with one key, where the keys of the entries are texts: an element
leads to the first entry that shows the text, and each change of a node is a change of the list under one name.
-/

namespace ConfigMigration.Tree

open Json (setMember_of_member?_eq_some member?_setMember_of_ne)

/-- The element that leads to the entries of a list which show a text under a key. -/
def listElem (name key text : String) : PathElem := { name, keys := (∅ : Keys).insert key text }

/-- Whether an entry shows a text under a key. -/
def shows (key text : String) (entry : Json) : Bool := entry.textAt? key = some text

/-- The entry that is made for a text under a key. -/
def freshEntry (key text : String) : Json := .object [(key, .string text)]

/-- Changes the first entry that shows a text under a key; it is made if it is missing. -/
def changeEntry (name key text : String) (f : Json → Json) (value : Json) : Json :=
  value.setMember name (.array (upsert (shows key text) f (freshEntry key text) (value.itemsAt name)))

/-- Changes the list under a name, if there is one. -/
def editItems (name : String) (f : List Json → List Json) (value : Json) : Json :=
  match value.member? name with
  | some (.array items) => value.setMember name (.array (f items))
  | _ => value

/-- One value comes from another by a change of the list under a name alone. -/
structure Edits (name : String) (f : List Json → List Json) (value value' : Json) : Prop where
  items : value'.itemsAt name = f (value.itemsAt name)
  others : ∀ other, other ≠ name → value'.member? other = value.member? other
  eq_self : f (value.itemsAt name) = value.itemsAt name → value' = value

/-! ### Keys -/

theorem shows_iff {key text : String} {entry : Json} :
    shows key text entry = true ↔ entry.textAt? key = some text := by
  simp [shows]

theorem shows_freshEntry (key text : String) : shows key text (freshEntry key text) = true := by
  simp [shows_iff, freshEntry, Json.textAt?, Json.member?, Json.text?]

/-- An entry shows one text under a key. -/
theorem shows_eq_false_of_ne {key text other : String} (h : other ≠ text) {entry : Json}
    (he : shows key text entry = true) : shows key other entry = false := by
  rw [shows_iff] at he
  simp only [shows, he, Option.some.injEq, decide_eq_false_iff_not]
  exact fun heq => h heq.symm

theorem shows_setMember_of_ne {key name : String} (h : key ≠ name) (text : String) (field entry : Json) :
    shows key text (entry.setMember name field) = shows key text entry := by
  unfold shows
  rw [Json.textAt?_setMember_of_ne h]

theorem matchesKeys_listElem {key : String} {entry : Json} (h : entry.IsTextAt key) (name text : String) :
    matchesKeys (listElem name key text).keys entry = shows key text entry := by
  change ([(key, text)].all fun key => (entry.member? key.1).bind Json.scalarText? = some key.2) = _
  rw [List.all_cons, List.all_nil, Bool.and_true]
  unfold shows Json.textAt?
  cases hm : entry.member? key with
  | none => rfl
  | some field =>
    rcases h field hm with rfl | hs
    · rfl
    · obtain ⟨s, hs⟩ := Option.isSome_iff_exists.mp hs
      rw [Json.text?_eq_some_iff.mp hs]
      rfl

/-! ### Writing -/

/-- Writing along an element with one key changes the first entry that shows the text. -/
theorem changeChild_listElem {name key : String} {value : Json} {f : Json → Json}
    {f' : Json → Except WriteFault Json} (text : String) (ho : value.isObject = true) (hl : value.IsListAt name)
    (hkey : ∀ entry ∈ value.itemsAt name, entry.IsTextAt key)
    (hf : ∀ entry ∈ value.itemsAt name, f' entry = .ok (f entry))
    (hfresh : f' (freshEntry key text) = .ok (f (freshEntry key text))) :
    changeChild (listElem name key text) f' value = .ok (changeEntry name key text f value) := by
  have hitems :
      changeFirst (matchesKeys (listElem name key text).keys) f' (freshEntry key text) (value.itemsAt name) =
        .ok (upsert (shows key text) f (freshEntry key text) (value.itemsAt name)) := by
    rw [changeFirst_eq_ok (fun entry he _ => hf entry he) hfresh]
    exact congrArg _ (upsert_congr fun entry he => matchesKeys_listElem (hkey entry he) name text)
  cases value with
  | object members =>
    have hfield : (members.lookup name).getD (.array []) = .array ((Json.object members).itemsAt name) := by
      cases hm : members.lookup name with
      | none =>
        simp [Json.itemsAt, Json.member?, hm]
      | some field =>
        obtain ⟨items, rfl⟩ := hl field hm
        simp [Json.itemsAt, Json.member?, hm, Json.items?]
    have hkeys : (listElem name key text).keys.isEmpty = false := rfl
    have hentry : entryOfKeys (listElem name key text).keys = freshEntry key text := rfl
    rw [changeChild, if_neg (by simp [hkeys]), show (listElem name key text).name = name from rfl, hfield, hentry]
    simp only [hitems, bind, Except.bind]
    rfl
  | _ => cases ho

/-- Where writing along an element with one key succeeds, it puts a changed list in the place of the list there. -/
theorem exists_items_of_changeChild {name key text : String} {value value' : Json}
    {f' : Json → Except WriteFault Json} (h : changeChild (listElem name key text) f' value = .ok value') :
    value.isObject = true ∧ ∃ items,
      changeFirst (matchesKeys (listElem name key text).keys) f' (freshEntry key text) (value.itemsAt name) =
        .ok items ∧
      value' = value.setMember name (.array items) := by
  cases value with
  | object members =>
    refine ⟨rfl, ?_⟩
    have hkeys : (listElem name key text).keys.isEmpty = false := rfl
    have hname : (listElem name key text).name = name := rfl
    have hentry : entryOfKeys (listElem name key text).keys = freshEntry key text := rfl
    rw [changeChild, if_neg (by simp [hkeys]), hname, hentry] at h
    split at h
    · rename_i items hitems
      have hlist : (Json.object members).itemsAt name = items := by
        cases hm : members.lookup name with
        | none =>
          rw [hm, Option.getD_none, Json.array.injEq] at hitems
          simp [Json.itemsAt, Json.member?, hm, hitems]
        | some field =>
          rw [hm, Option.getD_some] at hitems
          exact Json.itemsAt_of_member? (hm.trans (congrArg some hitems))
      rw [hlist]
      cases hchange : changeFirst (matchesKeys (listElem name key text).keys) f' (freshEntry key text) items with
      | error e =>
        rw [hchange] at h
        cases h
      | ok changed =>
        rw [hchange] at h
        exact ⟨changed, rfl, (Except.ok.inj h).symm⟩
    · cases h
  | _ => cases h

theorem edits_changeEntry {name key text : String} {f : Json → Json} {value : Json} (hd : value.IsDictionary)
    (hl : value.IsListAt name) :
    Edits name (upsert (shows key text) f (freshEntry key text)) value (changeEntry name key text f value) where
  items := Json.itemsAt_setMember hd.isObject name _
  others _ h := member?_setMember_of_ne h _ _
  eq_self h := by
    have hne : value.itemsAt name ≠ [] := by
      intro hnil
      rw [hnil] at h
      exact List.cons_ne_nil _ _ h
    rw [changeEntry, h]
    exact setMember_of_member?_eq_some hd (hl.member?_of_itemsAt hne)

/-! ### Removing -/

private theorem mapFirst_eq_insert {name : String} {f : Json → Json} {members : List (String × Json)}
    (ho : Dictionary.Ordered members) {field : Json} (h : members.lookup name = some field) :
    mapFirst (fun member : String × Json => decide (member.1 = name)) (fun member => (member.1, f member.2)) members =
      Dictionary.insert name (f field) members := by
  induction members with
  | nil => cases h
  | cons member members ih =>
    obtain ⟨other, value⟩ := member
    unfold Dictionary.Ordered at ho
    rw [List.pairwise_cons] at ho
    rw [List.lookup_cons] at h
    unfold mapFirst Dictionary.insert
    by_cases hname : other = name
    · subst hname
      simp only [beq_self_eq_true, Option.some.injEq] at h
      simp [h]
    · have hne : (name == other) = false := beq_eq_false_iff_ne.mpr fun heq => hname heq.symm
      rw [hne] at h
      -- a dictionary is ordered, so the name that is looked for does not stand further on
      have hlt : ¬name < other := by
        intro hlt
        obtain ⟨l₁, l₂, rfl, -⟩ := List.lookup_eq_some_iff.mp h
        exact String.lt_irrefl name (String.lt_trans hlt (ho.1 (name, field) (by simp)))
      have hne' : ¬name = other := fun heq => hname heq.symm
      simp only [hname, decide_false, Bool.false_eq_true, if_false, if_neg hlt, if_neg hne', ih ho.2 h]

theorem mapMember_mapItems {name : String} {value : Json} (f : List Json → List Json) (hd : value.IsDictionary)
    (hl : value.IsListAt name) : mapMember name (mapItems f) value = editItems name f value := by
  obtain ⟨members, rfl, ho⟩ := hd
  cases hm : members.lookup name with
  | none =>
    have hmember : (Json.object members).member? name = none := hm
    rw [editItems, hmember]
    refine mapMember_eq_self fun field hfield => ?_
    rw [hmember] at hfield
    cases hfield
  | some field =>
    unfold mapMember editItems
    obtain ⟨items, rfl⟩ := hl field hm
    simp only [Json.member?, hm, mapFirst_eq_insert ho hm]
    rfl

/-- Removing along an element with one key drops every entry that shows the text. -/
theorem removeChild_listElem {name key : String} {value : Json} (text : String) (hd : value.IsDictionary)
    (hl : value.IsListAt name) (hkey : ∀ entry ∈ value.itemsAt name, entry.IsTextAt key) :
    removeChild (listElem name key text) value =
      editItems name (List.filter fun entry => !shows key text entry) value := by
  have hkeys : (listElem name key text).keys.isEmpty = false := rfl
  unfold removeChild
  rw [if_neg (by simp [hkeys])]
  change mapMember name _ value = _
  rw [mapMember_mapItems _ hd hl]
  unfold editItems
  split
  · rename_i items hm
    rw [Json.itemsAt_of_member? hm] at hkey
    rw [List.filter_congr fun entry he => congrArg (!·) (matchesKeys_listElem (hkey entry he) name text)]
  · rfl

/-- Removing along an element with one key and on changes the first entry that shows the text. -/
theorem mapChild_listElem {name key : String} {value : Json} (text : String) (f : Json → Json)
    (hd : value.IsDictionary) (hl : value.IsListAt name)
    (hkey : ∀ entry ∈ value.itemsAt name, entry.IsTextAt key) :
    mapChild (listElem name key text) f value = editItems name (mapFirst (shows key text) f) value := by
  have hkeys : (listElem name key text).keys.isEmpty = false := rfl
  unfold mapChild
  rw [if_neg (by simp [hkeys])]
  change mapMember name _ value = _
  rw [mapMember_mapItems _ hd hl]
  unfold editItems
  split
  · rename_i items hm
    rw [Json.itemsAt_of_member? hm] at hkey
    rw [mapFirst_congr fun entry he => matchesKeys_listElem (hkey entry he) name text]
  · rfl

theorem editItems_of_member? {name : String} {f : List Json → List Json} {value : Json} {items : List Json}
    (h : value.member? name = some (.array items)) :
    editItems name f value = value.setMember name (.array (f items)) := by
  unfold editItems
  rw [h]

theorem editItems_of_member?_eq_none {name : String} {f : List Json → List Json} {value : Json}
    (h : value.member? name = none) : editItems name f value = value := by
  unfold editItems
  rw [h]

theorem isDictionary_editItems {value : Json} (h : value.IsDictionary) (name : String)
    (f : List Json → List Json) : (editItems name f value).IsDictionary := by
  unfold editItems
  split
  · exact h.setMember name _
  · exact h

theorem isListAt_editItems {name : String} {value : Json} (hd : value.IsDictionary) (h : value.IsListAt name)
    (f : List Json → List Json) : (editItems name f value).IsListAt name := by
  unfold editItems
  split
  · exact Json.isListAt_setMember_self hd.isObject name _
  · exact h

theorem member?_editItems_of_ne {name other : String} (h : other ≠ name) (f : List Json → List Json) (value : Json) :
    (editItems name f value).member? other = value.member? other := by
  unfold editItems
  split
  · exact member?_setMember_of_ne h _ _
  · rfl

theorem itemsAt_editItems {name : String} {f : List Json → List Json} {value : Json} (hd : value.IsDictionary)
    (hl : value.IsListAt name) (hf : f [] = []) :
    (editItems name f value).itemsAt name = f (value.itemsAt name) := by
  cases hm : value.member? name with
  | none => rw [editItems_of_member?_eq_none hm, Json.itemsAt, hm]; exact hf.symm
  | some field =>
    obtain ⟨items, rfl⟩ := hl field hm
    rw [editItems_of_member? hm, Json.itemsAt_setMember hd.isObject, Json.itemsAt_of_member? hm]

theorem edits_editItems {name : String} {f : List Json → List Json} {value : Json} (hd : value.IsDictionary)
    (hl : value.IsListAt name) (hf : f [] = []) : Edits name f value (editItems name f value) where
  items := itemsAt_editItems hd hl hf
  others _ h := member?_editItems_of_ne h f value
  eq_self h := by
    cases hm : value.member? name with
    | none => exact editItems_of_member?_eq_none hm
    | some field =>
      obtain ⟨items, rfl⟩ := hl field hm
      rw [Json.itemsAt_of_member? hm] at h
      rw [editItems_of_member? hm, h]
      exact setMember_of_member?_eq_some hd hm

/-- Two changes of one list are one. -/
theorem editItems_editItems {name : String} {f g : List Json → List Json} {value : Json} (hd : value.IsDictionary)
    (hl : value.IsListAt name) :
    editItems name g (editItems name f value) = editItems name (fun items => g (f items)) value := by
  cases hm : value.member? name with
  | none => rw [editItems_of_member?_eq_none hm, editItems_of_member?_eq_none hm, editItems_of_member?_eq_none hm]
  | some field =>
    obtain ⟨items, rfl⟩ := hl field hm
    rw [editItems_of_member? hm, editItems_of_member? hm,
      editItems_of_member? (Json.member?_setMember_self hd.isObject name _), Json.setMember_setMember]

end ConfigMigration.Tree

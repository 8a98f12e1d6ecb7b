import ConfigMigration.Proofs.Json.Member
import ConfigMigration.Proofs.Tree.FirstMatch

/-!
# Steps of a walk

What one element of a path does to a node, for any keys and any value.  Writing along an element changes one member of
an object (`changeChild_cases`), so what a leaf is written into is an object.  Removing leaves the kind of a node: an
object stays an object, and nothing else is changed (`removeAt_eq_self`).
-/

namespace ConfigMigration

open ConfigMigration.Tree

/-- The names of keys. -/
def Keys.names (keys : Keys) : List String := keys.entries.map Prod.fst

namespace Json

/-- The text that an entry shows under a name, as the values of keys are compared with it. -/
def keyText? (entry : Json) (name : String) : Option String := (entry.member? name).bind scalarText?

theorem keyText?_eq_none {value : Json} {name : String}
    (h : ∀ field, value.member? name = some field → field.isComposite = true) : value.keyText? name = none := by
  unfold keyText?
  cases hfield : value.member? name with
  | none => rfl
  | some field => exact scalarText?_of_isComposite (h field hfield)

theorem keyText?_setMember_of_ne {name other : String} (h : other ≠ name) (field value : Json) :
    (value.setMember name field).keyText? other = value.keyText? other := by
  rw [keyText?, keyText?, member?_setMember_of_ne h]

end Json

namespace Tree

open Json (keyText?)

theorem matchesKeys_iff {keys : Keys} {entry : Json} :
    matchesKeys keys entry = true ↔ ∀ key ∈ keys.entries, entry.keyText? key.1 = some key.2 := by
  simp [matchesKeys, keyText?]

theorem matchesKeys_entryOfKeys (keys : Keys) : matchesKeys keys (entryOfKeys keys) = true := by
  rw [matchesKeys_iff]
  intro key hkey
  have hordered : Dictionary.Ordered (keys.entries.map fun key => (key.1, Json.string key.2)) := by
    unfold Dictionary.Ordered
    rw [List.pairwise_map]
    exact keys.ordered
  have hmem := List.mem_map_of_mem (f := fun key : String × String => (key.1, Json.string key.2)) hkey
  have hlookup := Dictionary.lookup_of_mem hordered hmem
  rw [keyText?, entryOfKeys, Json.member?, hlookup]
  rfl

theorem member?_entryOfKeys {keys : Keys} {name : String} (h : name ∉ keys.names) :
    (entryOfKeys keys).member? name = none := by
  rw [entryOfKeys, Json.member?]
  refine Dictionary.lookup_eq_none_of_notMem ?_
  rwa [List.map_map]

theorem find?_singleton (e : PathElem) (node : Json) : find? [e] node = child? e node :=
  Option.bind_fun_some (child? e node)

theorem find?_append (front back : List PathElem) (node : Json) :
    find? (front ++ back) node = (find? front node).bind (find? back) := by
  induction front generalizing node with
  | nil => rfl
  | cons e front ih =>
    change (child? e node).bind (find? (front ++ back)) = ((child? e node).bind (find? front)).bind (find? back)
    rw [Option.bind_assoc]
    exact congrArg _ (funext ih)

/-! ### Writing -/

variable {e : PathElem} {elems : List PathElem} {node node' : Json}

theorem writeMember_eq_ok {value : Json} (h : value.isObject = true) (name : String) (field : Json) :
    writeMember name field value = .ok (value.setMember name field) := by
  cases value <;> first | rfl | cases h

theorem eq_setMember_of_writeMember {name : String} {field value value' : Json}
    (h : writeMember name field value = .ok value') : value' = value.setMember name field := by
  cases value <;> cases h
  rfl

/-- What writing along an element does: it changes the member that the element names, or the first entry of the list
there that has the keys. -/
theorem changeChild_cases {f : Json → Except WriteFault Json} (h : changeChild e f node = .ok node') :
    node.isObject = true ∧
    ((e.keys.isEmpty = true ∧ ∃ child, f ((node.member? e.name).getD .emptyObject) = .ok child ∧
        node' = node.setMember e.name child) ∨
      (e.keys.isEmpty = false ∧ ∃ items items', (node.member? e.name).getD (.array []) = .array items ∧
        changeFirst (matchesKeys e.keys) f (entryOfKeys e.keys) items = .ok items' ∧
        node' = node.setMember e.name (.array items'))) := by
  cases node with
  | object members =>
    refine ⟨rfl, ?_⟩
    rw [changeChild] at h
    cases hkeys : e.keys.isEmpty with
    | true =>
      rw [if_pos hkeys] at h
      cases hchild : f ((members.lookup e.name).getD .emptyObject) with
      | error fault =>
        rw [hchild] at h
        cases h
      | ok child =>
        rw [hchild] at h
        exact .inl ⟨rfl, child, hchild, (Except.ok.inj h).symm⟩
    | false =>
      rw [if_neg (by simp [hkeys])] at h
      split at h
      · rename_i items hitems
        cases hchange : changeFirst (matchesKeys e.keys) f (entryOfKeys e.keys) items with
        | error fault =>
          rw [hchange] at h
          cases h
        | ok items' =>
          rw [hchange] at h
          exact .inr ⟨rfl, items, items', hitems, hchange, (Except.ok.inj h).symm⟩
      · cases h
  | _ => cases h

/-- A leaf is written into an object, and the object stays one. -/
theorem isObject_of_writeAt {leaf : String} {value : Json} (h : writeAt leaf value elems node = .ok node') :
    node.isObject = true ∧ node'.isObject = true := by
  cases elems with
  | nil =>
    cases node with
    | object members =>
      cases h
      exact ⟨rfl, rfl⟩
    | _ => cases h
  | cons e elems =>
    obtain ⟨hnode, ⟨-, child, -, rfl⟩ | ⟨-, items, items', -, -, rfl⟩⟩ := changeChild_cases h
    · exact ⟨hnode, by rwa [Json.isObject_setMember]⟩
    · exact ⟨hnode, by rwa [Json.isObject_setMember]⟩

/-- A write goes on through an object or a list, or makes one, and puts one back. -/
theorem isComposite_of_writeAt {leaf : String} {value : Json} (h : writeAt leaf value (e :: elems) node = .ok node') :
    (∀ field, node.member? e.name = some field → field.isComposite = true) ∧
      ∃ field, field.isComposite = true ∧ node' = node.setMember e.name field := by
  obtain ⟨-, ⟨-, child, hchild, rfl⟩ | ⟨-, items, items', hitems, -, rfl⟩⟩ := changeChild_cases h
  · obtain ⟨hold, hnew⟩ := isObject_of_writeAt hchild
    refine ⟨fun field hfield => ?_, child, Json.isComposite_of_isObject hnew, rfl⟩
    rw [hfield, Option.getD_some] at hold
    exact Json.isComposite_of_isObject hold
  · refine ⟨fun field hfield => ?_, .array items', rfl, rfl⟩
    rw [hfield, Option.getD_some] at hitems
    rw [hitems]
    rfl

/-- A write does not go on through a scalar, such as one that shows the value of a key. -/
theorem name_ne_of_writeAt {leaf name text : String} {value : Json}
    (h : writeAt leaf value (e :: elems) node = .ok node') (ht : node.keyText? name = some text) : name ≠ e.name := by
  rintro rfl
  rw [Json.keyText?_eq_none (isComposite_of_writeAt h).1] at ht
  cases ht

/-- Writing below an entry changes no text that it shows, the leaf itself apart. -/
theorem keyText?_writeAt {leaf name : String} {value : Json} (h : writeAt leaf value elems node = .ok node')
    (hleaf : elems = [] → name ≠ leaf) : node'.keyText? name = node.keyText? name := by
  cases elems with
  | nil =>
    rw [eq_setMember_of_writeMember h, Json.keyText?_setMember_of_ne (hleaf rfl)]
  | cons e elems =>
    have hobject := (isObject_of_writeAt h).1
    obtain ⟨hold, field, hfield, rfl⟩ := isComposite_of_writeAt h
    by_cases hname : name = e.name
    · subst hname
      rw [Json.keyText?_eq_none hold, Json.keyText?, Json.member?_setMember_self hobject]
      exact Json.scalarText?_of_isComposite hfield
    · exact Json.keyText?_setMember_of_ne hname field node

theorem exists_leaf_of_write {p : Path} {v : Scalar} (h : write p v node = .ok node') :
    ∃ parents leaf, p.elems = parents ++ [leaf] ∧ leaf.keys.isEmpty = true ∧
      ∀ w node, write p w node = writeAt leaf.name w.toJson parents node := by
  unfold write at h
  split at h
  · cases h
  · rename_i leaf hlast
    split at h
    · rename_i hkeys
      obtain ⟨parents, helems⟩ := List.getLast?_eq_some_iff.mp hlast
      refine ⟨parents, leaf, helems, hkeys, fun w node => ?_⟩
      rw [write, hlast, helems, List.dropLast_concat]
      exact if_pos hkeys
    · cases h

/-! ### Removing -/

theorem member?_mapMember_self (name : String) (f : Json → Json) (value : Json) :
    (mapMember name f value).member? name = (value.member? name).map f := by
  cases value with
  | object members =>
    change (mapFirst _ _ members).lookup name = (members.lookup name).map f
    induction members with
    | nil => rfl
    | cons member members ih =>
      obtain ⟨other, field⟩ := member
      unfold mapFirst
      by_cases hname : other = name
      · simp [hname]
      · have hne : (name == other) = false := beq_eq_false_iff_ne.mpr fun heq => hname heq.symm
        simp only [hname, decide_false, Bool.false_eq_true, if_false, List.lookup_cons, hne, ih]
  | _ => rfl

theorem member?_mapMember_of_ne {name other : String} (h : other ≠ name) (f : Json → Json) (value : Json) :
    (mapMember name f value).member? other = value.member? other := by
  cases value with
  | object members =>
    change (mapFirst _ _ members).lookup other = members.lookup other
    induction members with
    | nil => rfl
    | cons member members ih =>
      unfold mapFirst
      split
      · rename_i hname
        have hne : (other == member.1) = false :=
          beq_eq_false_iff_ne.mpr fun heq => h (heq.trans (of_decide_eq_true hname))
        rw [List.lookup_cons, List.lookup_cons, hne]
      · rw [List.lookup_cons, List.lookup_cons, ih]
  | _ => rfl

/-- A change that keeps the member, if there is one, changes nothing. -/
theorem mapMember_eq_self {name : String} {f : Json → Json}
    (h : ∀ field, node.member? name = some field → f field = field) : mapMember name f node = node := by
  cases node with
  | object members =>
    refine congrArg Json.object (mapFirst_eq_self fun member hmember => ?_)
    obtain ⟨hname, front, back, rfl, hfront⟩ := List.find?_eq_some_iff_append.mp hmember
    have hlookup : (front ++ member :: back).lookup name = some member.2 := by
      refine List.lookup_eq_some_iff.mpr ⟨front, back, by rw [← of_decide_eq_true hname], fun other hother => ?_⟩
      have hne : ¬other.1 = name := by simpa using hfront other hother
      exact bne_iff_ne.mpr fun heq => hne heq.symm
    exact Prod.ext rfl (h member.2 hlookup)
  | _ => rfl

theorem member?_eq_none (h : node.isObject = false) (name : String) : node.member? name = none := by
  cases node with
  | object members => cases h
  | _ => rfl

theorem scalarText?_mapItems (f : List Json → List Json) (field : Json) :
    (mapItems f field).scalarText? = field.scalarText? := by
  cases field <;> rfl

theorem keyText?_mapMember {name : String} {f : Json → Json} (hf : ∀ field, (f field).scalarText? = field.scalarText?)
    (other : String) (value : Json) : (mapMember name f value).keyText? other = value.keyText? other := by
  by_cases h : other = name
  · subst h
    rw [keyText?, keyText?, member?_mapMember_self]
    cases value.member? other with
    | none => rfl
    | some field => exact hf field
  · rw [keyText?, keyText?, member?_mapMember_of_ne h]

theorem removeAt_cons (hne : elems ≠ []) (e : PathElem) (node : Json) :
    removeAt (e :: elems) node = mapChild e (removeAt elems) node := by
  rw [removeAt]
  exact hne

/-- Removing below the root changes objects only, and leaves them objects. -/
theorem removeAt_eq_self (hne : elems ≠ []) (h : node.isObject = false) : removeAt elems node = node := by
  have hmap : ∀ name f, mapMember name f node = node := fun name f =>
    mapMember_eq_self fun field hfield => by
      rw [member?_eq_none h] at hfield
      cases hfield
  match elems with
  | [e] =>
    rw [removeAt, removeChild]
    split
    · cases node with
      | object members => cases h
      | _ => rfl
    · exact hmap _ _
  | e :: e' :: elems => exact hmap _ _

theorem isObject_removeAt (elems : List PathElem) (h : node.isObject = true) :
    (removeAt elems node).isObject = true := by
  cases node with
  | object members =>
    match elems with
    | [] => rfl
    | [e] =>
      rw [removeAt, removeChild]
      split <;> rfl
    | e :: e' :: elems => rfl
  | _ => cases h

theorem scalarText?_removeAt (hne : elems ≠ []) (node : Json) :
    (removeAt elems node).scalarText? = node.scalarText? := by
  cases hobject : node.isObject with
  | false => rw [removeAt_eq_self hne hobject]
  | true =>
    have hnone : ∀ value : Json, value.isObject = true → value.scalarText? = none := by
      intro value hvalue
      cases value <;> first | rfl | cases hvalue
    rw [hnone _ hobject, hnone _ (isObject_removeAt elems hobject)]

theorem mapChild_of_isEmpty (h : e.keys.isEmpty = true) (f : Json → Json) (node : Json) :
    mapChild e f node = mapMember e.name f node := by
  rw [mapChild, if_pos h]

theorem mapChild_of_keyed (h : e.keys.isEmpty = false) (f : Json → Json) (node : Json) :
    mapChild e f node = mapMember e.name (mapItems (mapFirst (matchesKeys e.keys) f)) node := by
  rw [mapChild, if_neg (by simp [h])]

theorem removeChild_of_keyed (h : e.keys.isEmpty = false) (node : Json) :
    removeChild e node = mapMember e.name (mapItems (List.filter fun entry => !matchesKeys e.keys entry)) node := by
  rw [removeChild, if_neg (by simp [h])]

theorem member?_removeChild_self (h : e.keys.isEmpty = true) (node : Json) :
    (removeChild e node).member? e.name = none := by
  rw [removeChild, if_pos h]
  cases node with
  | object members => exact Dictionary.lookup_erase_self e.name members
  | _ => rfl

theorem member?_removeChild_of_ne {name : String} (h : name ≠ e.name) (node : Json) :
    (removeChild e node).member? name = node.member? name := by
  cases hkeys : e.keys.isEmpty with
  | true =>
    rw [removeChild, if_pos hkeys]
    cases node with
    | object members => exact Dictionary.lookup_erase_of_ne h members
    | _ => rfl
  | false => rw [removeChild_of_keyed hkeys, member?_mapMember_of_ne h]

theorem keyText?_mapChild {f : Json → Json} (hf : ∀ field, (f field).scalarText? = field.scalarText?) (name : String)
    (node : Json) : (mapChild e f node).keyText? name = node.keyText? name := by
  cases hkeys : e.keys.isEmpty with
  | true => rw [mapChild_of_isEmpty hkeys, keyText?_mapMember hf]
  | false => rw [mapChild_of_keyed hkeys, keyText?_mapMember (scalarText?_mapItems _)]

/-- Removing below an entry keeps the texts that it shows, what is removed itself apart. -/
theorem keyText?_removeAt {name : String} (hne : elems ≠ []) (hlast : ∀ e, elems = [e] → name ≠ e.name)
    (node : Json) : (removeAt elems node).keyText? name = node.keyText? name := by
  match elems with
  | [e] =>
    change (removeChild e node).keyText? name = _
    rw [keyText?, keyText?, member?_removeChild_of_ne (hlast e rfl)]
  | e :: e' :: elems => exact keyText?_mapChild (scalarText?_removeAt (List.cons_ne_nil e' elems)) name node

theorem keyText?_of_removeAt {name text : String} (hne : elems ≠ [])
    (h : (removeAt elems node).keyText? name = some text) : node.keyText? name = some text := by
  match elems with
  | [e] =>
    by_cases hname : name = e.name
    · subst hname
      change (removeChild e node).keyText? e.name = some text at h
      cases hkeys : e.keys.isEmpty with
      | true =>
        rw [keyText?, member?_removeChild_self hkeys] at h
        cases h
      | false => rwa [removeChild_of_keyed hkeys, keyText?_mapMember (scalarText?_mapItems _)] at h
    · rwa [keyText?_removeAt hne fun _ heq => List.singleton_inj.mp heq ▸ hname] at h
  | e :: e' :: elems => rwa [keyText?_removeAt hne fun _ heq => nomatch heq] at h

end Tree

end ConfigMigration

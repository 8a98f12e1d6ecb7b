import ConfigMigration.Proofs.Tree.Steps

/-!
# Elements as lenses

An element leads from a node to one of its children, and writing along it puts a changed child back
(`changeChild_eq_map`).  As long as a child shows the keys that it is found by, putting it back obeys the laws of a
lens: the child is found (`child?_setChild_self`), the later of two counts (`setChild_setChild`), and an element that
conflicts leads where it led before (`child?_setChild_of_conflicts`).  Changing and removing a child on the way of a
removal obey the same laws.
-/

namespace ConfigMigration

/-- Whether two elements name different members, or ask for different texts under one key;
no node is found by both. -/
def PathElem.Conflicts (a b : PathElem) : Prop :=
  a.name ≠ b.name ∨ ∃ k ∈ a.keys.entries, ∃ l ∈ b.keys.entries, k.1 = l.1 ∧ k.2 ≠ l.2

instance (a b : PathElem) : Decidable (a.Conflicts b) := inferInstanceAs (Decidable (_ ∨ _))

namespace Tree

variable {e a b : PathElem} {node child child' entry : Json}

/-! ### Keys -/

theorem matchesKeys_of_isEmpty (h : e.keys.isEmpty = true) (entry : Json) : matchesKeys e.keys entry = true := by
  rw [matchesKeys_iff, List.isEmpty_iff.mp h]
  exact fun _ hk => absurd hk List.not_mem_nil

/-- An entry shows one text under a key, so it does not have the keys of two elements that conflict. -/
theorem matchesKeys_of_conflicts (h : a.Conflicts b) (hname : a.name = b.name)
    (ha : matchesKeys a.keys entry = true) : matchesKeys b.keys entry = false := by
  obtain ⟨k, hk, l, hl, hkey, htext⟩ := h.resolve_left fun hne => hne hname
  refine Bool.eq_false_iff.mpr fun hb => htext ?_
  have hak := matchesKeys_iff.mp ha k hk
  rw [hkey, matchesKeys_iff.mp hb l hl] at hak
  exact (Option.some.inj hak).symm

theorem keyed_of_conflicts (h : a.Conflicts b) (hname : a.name = b.name) :
    a.keys.isEmpty = false ∧ b.keys.isEmpty = false := by
  obtain ⟨k, hk, l, hl, -⟩ := h.resolve_left fun hne => hne hname
  refine ⟨Bool.eq_false_iff.mpr fun ha => ?_, Bool.eq_false_iff.mpr fun hb => ?_⟩
  · rw [List.isEmpty_iff.mp ha] at hk
    exact absurd hk List.not_mem_nil
  · rw [List.isEmpty_iff.mp hb] at hl
    exact absurd hl List.not_mem_nil

/-! ### Looking up -/

theorem child?_of_isEmpty (h : e.keys.isEmpty = true) (node : Json) : child? e node = node.member? e.name := by
  unfold child?
  cases node.member? e.name with
  | none => rfl
  | some field => simp [h]

theorem child?_of_keyed (h : e.keys.isEmpty = false) (node : Json) :
    child? e node = (node.itemsAt e.name).find? (matchesKeys e.keys) := by
  unfold child? Json.itemsAt
  cases node.member? e.name with
  | none => rfl
  | some field => cases field <;> simp [h, Json.items?]

theorem matchesKeys_of_child? (h : child? e node = some child) : matchesKeys e.keys child = true := by
  cases hkeys : e.keys.isEmpty with
  | true => exact matchesKeys_of_isEmpty hkeys child
  | false =>
    rw [child?_of_keyed hkeys] at h
    exact List.find?_some h

/-- The child that a walk goes on with, found or new, shows the keys. -/
theorem matchesKeys_getD_child? (e : PathElem) (node : Json) :
    matchesKeys e.keys ((child? e node).getD (entryOfKeys e.keys)) = true := by
  cases h : child? e node with
  | none => exact matchesKeys_entryOfKeys e.keys
  | some child => exact matchesKeys_of_child? h

/-! ### Putting a child back -/

/-- The node with another child where an element leads; the child is added if there is none. -/
def setChild (e : PathElem) (child node : Json) : Json :=
  node.setMember e.name (if e.keys.isEmpty then child else
    .array (upsert (matchesKeys e.keys) (fun _ => child) (entryOfKeys e.keys) (node.itemsAt e.name)))

theorem setChild_of_isEmpty (h : e.keys.isEmpty = true) (child node : Json) :
    setChild e child node = node.setMember e.name child := by
  rw [setChild, if_pos h]

theorem setChild_of_keyed (h : e.keys.isEmpty = false) (child node : Json) :
    setChild e child node = node.setMember e.name
      (.array (upsert (matchesKeys e.keys) (fun _ => child) (entryOfKeys e.keys) (node.itemsAt e.name))) := by
  rw [setChild, if_neg (by simp [h])]

/-- Whether a node can be written along an element. -/
structure IsOpen (e : PathElem) (node : Json) : Prop where
  object : node.isObject = true
  list : e.keys.isEmpty = false → node.IsListAt e.name

theorem isOpen_of_changeChild {f : Json → Except WriteFault Json} {node' : Json}
    (h : changeChild e f node = .ok node') : IsOpen e node := by
  obtain ⟨hobject, ⟨hkeys, -⟩ | ⟨-, items, -, hitems, -⟩⟩ := changeChild_cases h
  · exact ⟨hobject, fun hkeyed => by rw [hkeys] at hkeyed; cases hkeyed⟩
  · refine ⟨hobject, fun _ field hfield => ?_⟩
    rw [hfield, Option.getD_some] at hitems
    exact ⟨items, hitems⟩

/-- Writing along an element puts back what is made of the child there, or of a new entry with the keys. -/
theorem changeChild_eq_map (h : IsOpen e node) (f : Json → Except WriteFault Json) :
    changeChild e f node =
      (fun child => setChild e child node) <$> f ((child? e node).getD (entryOfKeys e.keys)) := by
  obtain ⟨hobject, hlist⟩ := h
  cases node with
  | object members =>
    cases hkeys : e.keys.isEmpty with
    | true =>
      have hfresh : entryOfKeys e.keys = .emptyObject := by
        rw [entryOfKeys, List.isEmpty_iff.mp hkeys]
        rfl
      have hset : (fun child => setChild e child (.object members)) =
          fun child => .object (Dictionary.insert e.name child members) :=
        funext fun child => setChild_of_isEmpty hkeys child _
      rw [changeChild, if_pos hkeys, child?_of_isEmpty hkeys, hfresh, hset, ← bind_pure_comp]
      rfl
    | false =>
      have hitems : (members.lookup e.name).getD (.array []) = .array ((Json.object members).itemsAt e.name) := by
        cases hm : members.lookup e.name with
        | none => simp [Json.itemsAt, Json.member?, hm]
        | some field =>
          obtain ⟨items, rfl⟩ := hlist hkeys field hm
          have hmember : (Json.object members).member? e.name = some (.array items) := hm
          rw [Json.itemsAt_of_member? hmember, Option.getD_some]
      rw [changeChild, if_neg (by simp [hkeys]), hitems, child?_of_keyed hkeys]
      simp only [changeFirst_eq_map, setChild_of_keyed hkeys, ← bind_pure_comp, bind_assoc, pure_bind]
      rfl
  | _ => cases hobject

theorem exists_child_of_changeChild {f : Json → Except WriteFault Json} {node' : Json}
    (h : changeChild e f node = .ok node') :
    ∃ child, f ((child? e node).getD (entryOfKeys e.keys)) = .ok child ∧ node' = setChild e child node := by
  rw [changeChild_eq_map (isOpen_of_changeChild h)] at h
  cases hchild : f ((child? e node).getD (entryOfKeys e.keys)) with
  | error fault =>
    rw [hchild] at h
    cases h
  | ok child =>
    rw [hchild] at h
    exact ⟨child, rfl, (Except.ok.inj h).symm⟩

/-! ### Laws of putting back -/

theorem isOpen_setChild (h : IsOpen e node) (child : Json) : IsOpen e (setChild e child node) := by
  refine ⟨by rw [setChild, Json.isObject_setMember, h.object], fun hkeys => ?_⟩
  rw [setChild_of_keyed hkeys]
  exact Json.isListAt_setMember_self h.object e.name _

/-- The child that was put is found. -/
theorem child?_setChild_self (h : node.isObject = true) (hchild : matchesKeys e.keys child = true) :
    child? e (setChild e child node) = some child := by
  cases hkeys : e.keys.isEmpty with
  | true => rw [child?_of_isEmpty hkeys, setChild_of_isEmpty hkeys, Json.member?_setMember_self h]
  | false =>
    rw [child?_of_keyed hkeys, setChild_of_keyed hkeys, Json.itemsAt_setMember h]
    exact find?_upsert_self (matchesKeys_entryOfKeys e.keys) fun _ _ => hchild

/-- The later of two children counts. -/
theorem setChild_setChild (h : node.isObject = true) (hchild : matchesKeys e.keys child = true) :
    setChild e child' (setChild e child node) = setChild e child' node := by
  cases hkeys : e.keys.isEmpty with
  | true => simp only [setChild_of_isEmpty hkeys, Json.setMember_setMember]
  | false =>
    simp only [setChild_of_keyed hkeys, Json.setMember_setMember, Json.itemsAt_setMember h]
    rw [upsert_upsert (matchesKeys_entryOfKeys e.keys) fun _ _ => hchild]

/-- An element of another name leads where it led before. -/
theorem child?_setChild_of_name_ne (h : a.name ≠ b.name) (child node : Json) :
    child? b (setChild a child node) = child? b node := by
  have hmember : (setChild a child node).member? b.name = node.member? b.name :=
    Json.member?_setMember_of_ne h.symm _ node
  unfold child?
  rw [hmember]

/-- An element that conflicts leads where it led before. -/
theorem child?_setChild_of_conflicts (h : a.Conflicts b) (hobject : node.isObject = true)
    (hchild : matchesKeys a.keys child = true) : child? b (setChild a child node) = child? b node := by
  by_cases hname : a.name = b.name
  · obtain ⟨ha, hb⟩ := keyed_of_conflicts h hname
    rw [child?_of_keyed hb, child?_of_keyed hb, setChild_of_keyed ha, ← hname, Json.itemsAt_setMember hobject]
    exact find?_upsert_of_disjoint (fun _ => matchesKeys_of_conflicts h hname) (matchesKeys_entryOfKeys a.keys)
      fun _ _ => hchild
  · exact child?_setChild_of_name_ne hname child node

/-! ### Changing a child -/

private theorem itemsAt_mapMember_mapItems {f : List Json → List Json} (hf : f [] = []) (name : String)
    (node : Json) : (mapMember name (mapItems f) node).itemsAt name = f (node.itemsAt name) := by
  unfold Json.itemsAt
  rw [member?_mapMember_self]
  cases node.member? name with
  | none => exact hf.symm
  | some field =>
    cases field with
    | array items => rfl
    | _ => exact hf.symm

theorem child?_mapChild_self {f : Json → Json}
    (hf : ∀ child, matchesKeys e.keys child = true → matchesKeys e.keys (f child) = true) (node : Json) :
    child? e (mapChild e f node) = (child? e node).map f := by
  cases hkeys : e.keys.isEmpty with
  | true => rw [child?_of_isEmpty hkeys, child?_of_isEmpty hkeys, mapChild_of_isEmpty hkeys, member?_mapMember_self]
  | false =>
    rw [child?_of_keyed hkeys, child?_of_keyed hkeys, mapChild_of_keyed hkeys, itemsAt_mapMember_mapItems rfl]
    exact find?_mapFirst_self hf

theorem child?_mapChild_of_conflicts {f : Json → Json} (h : a.Conflicts b)
    (hf : ∀ child, matchesKeys a.keys child = true → matchesKeys a.keys (f child) = true) (node : Json) :
    child? b (mapChild a f node) = child? b node := by
  by_cases hname : a.name = b.name
  · obtain ⟨ha, hb⟩ := keyed_of_conflicts h hname
    rw [child?_of_keyed hb, child?_of_keyed hb, mapChild_of_keyed ha, ← hname, itemsAt_mapMember_mapItems rfl]
    exact find?_mapFirst_of_disjoint (fun _ => matchesKeys_of_conflicts h hname) hf
  · have hmember : (mapChild a f node).member? b.name = node.member? b.name :=
      member?_mapMember_of_ne (fun heq => hname heq.symm) _ node
    unfold child?
    rw [hmember]

/-- Where the child stays as it is, and where there is none, the node stays as it is. -/
theorem mapChild_eq_self {f : Json → Json} (h : ∀ child, child? e node = some child → f child = child) :
    mapChild e f node = node := by
  cases hkeys : e.keys.isEmpty with
  | true =>
    simp only [child?_of_isEmpty hkeys] at h
    rw [mapChild_of_isEmpty hkeys, mapMember_eq_self h]
  | false =>
    rw [mapChild_of_keyed hkeys]
    simp only [child?_of_keyed hkeys] at h
    refine mapMember_eq_self fun field hfield => ?_
    cases field with
    | array items =>
      rw [Json.itemsAt_of_member? hfield] at h
      exact congrArg Json.array (mapFirst_eq_self h)
    | _ => rfl

/-! ### Removing a child -/

/-- Nothing is found where a child was removed: every entry with the keys is gone. -/
theorem child?_removeChild_self (e : PathElem) (node : Json) : child? e (removeChild e node) = none := by
  cases hkeys : e.keys.isEmpty with
  | true => rw [child?_of_isEmpty hkeys, member?_removeChild_self hkeys]
  | false =>
    rw [child?_of_keyed hkeys, removeChild_of_keyed hkeys, itemsAt_mapMember_mapItems rfl, List.find?_eq_none]
    intro entry hentry
    simpa using (List.mem_filter.mp hentry).2

theorem child?_removeChild_of_conflicts (h : a.Conflicts b) (node : Json) :
    child? b (removeChild a node) = child? b node := by
  by_cases hname : a.name = b.name
  · obtain ⟨ha, hb⟩ := keyed_of_conflicts h hname
    rw [child?_of_keyed hb, child?_of_keyed hb, removeChild_of_keyed ha, ← hname, itemsAt_mapMember_mapItems rfl]
    exact find?_filter_not_of_disjoint fun _ => matchesKeys_of_conflicts h hname
  · have hmember := member?_removeChild_of_ne (fun heq => hname heq.symm) node
    unfold child?
    rw [hmember]

/-- Removing what is not there changes nothing. -/
theorem removeChild_eq_self (h : child? e node = none) : removeChild e node = node := by
  cases hkeys : e.keys.isEmpty with
  | true =>
    rw [child?_of_isEmpty hkeys] at h
    rw [removeChild, if_pos hkeys]
    cases node with
    | object members =>
      have hnone : members.lookup e.name = none := h
      exact congrArg Json.object (Dictionary.erase_of_lookup_eq_none hnone)
    | _ => rfl
  | false =>
    rw [child?_of_keyed hkeys, List.find?_eq_none] at h
    rw [removeChild_of_keyed hkeys]
    refine mapMember_eq_self fun field hfield => ?_
    cases field with
    | array items =>
      rw [Json.itemsAt_of_member? hfield] at h
      refine congrArg Json.array (List.filter_eq_self.mpr fun entry hentry => ?_)
      simpa using h entry hentry
    | _ => rfl

end Tree

end ConfigMigration

import ConfigMigration.Proofs.Tree.Child
import ConfigMigration.Store.Memory

/-!
# Rejected writes

A write makes what is missing on its way, so a tree rejects it only for what stands there: a node that the walk has to
pass and that is no object, or a value that is no list where an element asks for an entry (`Obstructed`).

What is made on the way can be in the way too.  An entry that is made for an element holds the values of its keys, and
an entry that is found shows them, so in each tree the walk stops at an element that is named like a key of the
element before it (`PassesKey`).  A leaf of this name is written, since it takes the place of the value.  These are
all the reasons, apart from a path that ends at the root or with keys (`write_is_rejected_iff`).
-/

namespace ConfigMigration.Tree

variable {e f : PathElem} {elems : List PathElem} {node node' child value : Json} {name : String} {fault : WriteFault}

/-- Whether something in a tree is in the way of a walk along elements. -/
inductive Obstructed (elems : List PathElem) (tree : Json) : Prop where
  /-- Some of the elements lead to a node that is no object. -/
  | node (front back : List PathElem) (found : Json) (split : elems = front ++ back)
      (leads : find? front tree = some found) (kind : found.isObject = false)
  /-- An element with keys names a member that is no list. -/
  | list (front back : List PathElem) (e : PathElem) (found field : Json) (split : elems = front ++ e :: back)
      (keyed : e.keys.isEmpty = false) (leads : find? front tree = some found)
      (member : found.member? e.name = some field) (kind : field.items? = none)

/-- Whether an element is named like a key of the element before it. -/
def PassesKey (elems : List PathElem) : Prop :=
  ∃ front e f back, elems = front ++ e :: f :: back ∧ f.name ∈ e.keys.names

/-! ### Obstacles on the way -/

theorem Obstructed.cons (h : Obstructed elems child) (hchild : child? e node = some child) :
    Obstructed (e :: elems) node := by
  have hleads : ∀ front, find? (e :: front) node = find? front child := by
    intro front
    rw [find?, hchild, Option.bind_some]
  cases h with
  | node front back found split leads kind =>
    exact .node (e :: front) back found (congrArg _ split) ((hleads front).trans leads) kind
  | list front back e' found field split keyed leads member kind =>
    exact .list (e :: front) back e' found field (congrArg _ split) keyed ((hleads front).trans leads) member kind

theorem PassesKey.cons (h : PassesKey elems) (e : PathElem) : PassesKey (e :: elems) := by
  obtain ⟨front, a, b, back, rfl, hname⟩ := h
  exact ⟨e :: front, a, b, back, rfl, hname⟩

theorem isOpen_or_obstructed (e : PathElem) (elems : List PathElem) (node : Json) :
    IsOpen e node ∨ Obstructed (e :: elems) node := by
  by_cases hobject : node.isObject = true
  · by_cases hlist : e.keys.isEmpty = false → node.IsListAt e.name
    · exact .inl ⟨hobject, hlist⟩
    · simp only [Json.IsListAt, Classical.not_imp, Classical.not_forall] at hlist
      obtain ⟨hkeyed, field, hfield, hitems⟩ := hlist
      refine .inr (.list [] elems e node field rfl hkeyed rfl hfield ?_)
      cases field with
      | array items => exact absurd ⟨items, rfl⟩ hitems
      | _ => rfl
  · exact .inr (.node [] (e :: elems) node rfl rfl (Bool.eq_false_iff.mpr hobject))

/-- Nothing is in the way in a tree without members. -/
theorem not_obstructed_emptyObject (elems : List PathElem) : ¬Obstructed elems .emptyObject := by
  have hleads : ∀ front found, find? front .emptyObject = some found → found = .emptyObject := by
    intro front found h
    cases front with
    | nil => exact (Option.some.inj h).symm
    | cons e front => cases h
  rintro (⟨front, back, found, -, leads, kind⟩ | ⟨front, back, e, found, field, -, -, leads, member, -⟩)
  · rw [hleads front found leads] at kind
    cases kind
  · rw [hleads front found leads] at member
    cases member

/-! ### What rejects a write -/

/-- In an entry that is made on the way, only the values of its keys are in the way. -/
theorem passesKey_of_writeAt_entryOfKeys (h : writeAt name value elems (entryOfKeys e.keys) = .error fault) :
    PassesKey (e :: elems) := by
  induction elems generalizing e fault with
  | nil => cases h
  | cons f elems ih =>
    by_cases hname : f.name ∈ e.keys.names
    · exact ⟨[], e, f, elems, rfl, hname⟩
    · have hmember : (entryOfKeys e.keys).member? f.name = none := member?_entryOfKeys hname
      have hopen : IsOpen f (entryOfKeys e.keys) :=
        ⟨rfl, fun _ field hfield => by rw [hmember] at hfield; cases hfield⟩
      have hchild : child? f (entryOfKeys e.keys) = none := by
        rw [child?, hmember]
        rfl
      rw [writeAt, changeChild_eq_map hopen, hchild, Option.getD_none] at h
      cases hrest : writeAt name value elems (entryOfKeys f.keys) with
      | error fault => exact (ih hrest).cons e
      | ok child =>
        rw [hrest] at h
        cases h

theorem obstructed_or_passesKey_of_writeAt (h : writeAt name value elems node = .error fault) :
    Obstructed elems node ∨ PassesKey elems := by
  induction elems generalizing node fault with
  | nil =>
    cases node with
    | object members => cases h
    | _ => exact .inl (.node [] [] _ rfl rfl rfl)
  | cons e elems ih =>
    rcases isOpen_or_obstructed e elems node with hopen | hobstructed
    · rw [writeAt, changeChild_eq_map hopen] at h
      cases hrest : writeAt name value elems ((child? e node).getD (entryOfKeys e.keys)) with
      | ok child =>
        rw [hrest] at h
        cases h
      | error fault =>
        cases hchild : child? e node with
        | none =>
          rw [hchild] at hrest
          exact .inr (passesKey_of_writeAt_entryOfKeys hrest)
        | some child =>
          rw [hchild] at hrest
          exact (ih hrest).imp (fun h => h.cons hchild) fun h => h.cons e
    · exact .inl hobstructed

/-- A write goes on behind each beginning of its way, in the node that is found there if there is one. -/
theorem exists_writeAt_of_append {front back : List PathElem}
    (h : writeAt name value (front ++ back) node = .ok node') :
    ∃ inner inner', writeAt name value back inner = .ok inner' ∧
      ∀ found, find? front node = some found → inner = found := by
  induction front generalizing node node' with
  | nil => exact ⟨node, node', h, fun found hfound => Option.some.inj hfound⟩
  | cons e front ih =>
    obtain ⟨child, hchild, -⟩ := exists_child_of_changeChild h
    obtain ⟨inner, inner', hinner, hfound⟩ := ih hchild
    refine ⟨inner, inner', hinner, fun found hleads => hfound found ?_⟩
    obtain ⟨old, hold, hleads⟩ := Option.bind_eq_some_iff.mp hleads
    rwa [hold, Option.getD_some]

theorem not_obstructed_of_writeAt (h : writeAt name value elems node = .ok node') : ¬Obstructed elems node := by
  rintro (⟨front, back, found, rfl, leads, kind⟩ | ⟨front, back, e, found, field, rfl, keyed, leads, member, kind⟩)
  · obtain ⟨inner, inner', hinner, hfound⟩ := exists_writeAt_of_append h
    rw [← hfound found leads, (isObject_of_writeAt hinner).1] at kind
    cases kind
  · obtain ⟨inner, inner', hinner, hfound⟩ := exists_writeAt_of_append h
    rw [← hfound found leads] at member
    obtain ⟨items, rfl⟩ := (isOpen_of_changeChild hinner).list keyed field member
    cases kind

theorem not_passesKey_of_writeAt (h : writeAt name value elems node = .ok node') : ¬PassesKey elems := by
  rintro ⟨front, e, f, back, rfl, hname⟩
  obtain ⟨inner, inner', hinner, -⟩ := exists_writeAt_of_append h
  obtain ⟨child, hchild, -⟩ := exists_child_of_changeChild hinner
  obtain ⟨key, hkey, hkeyName⟩ := List.mem_map.mp hname
  have htext := matchesKeys_iff.mp (matchesKeys_getD_child? e inner) key hkey
  exact name_ne_of_writeAt hchild htext hkeyName

theorem exists_writeAt_eq_error_iff :
    (∃ fault, writeAt name value elems node = .error fault) ↔ Obstructed elems node ∨ PassesKey elems := by
  constructor
  · rintro ⟨fault, h⟩
    exact obstructed_or_passesKey_of_writeAt h
  · intro h
    cases hwrite : writeAt name value elems node with
    | error fault => exact ⟨fault, rfl⟩
    | ok node' =>
      rcases h with h | h
      · exact absurd h (not_obstructed_of_writeAt hwrite)
      · exact absurd h (not_passesKey_of_writeAt hwrite)

/-- Whether a tree rejects every write to a path: the path stays at the root or ends with keys, something is in the
way of the elements before the last, or one of these is named like a key of the element before it. -/
def Rejects (tree : Json) (p : Path) : Prop :=
  p.isRoot = true ∨ (∃ leaf ∈ p.last?, leaf.keys.isEmpty = false) ∨
    Obstructed p.elems.dropLast tree ∨ PassesKey p.elems.dropLast

theorem exists_write_eq_error_iff (p : Path) (v : Scalar) (tree : Json) :
    (∃ fault, write p v tree = .error fault) ↔ Rejects tree p := by
  cases hlast : p.last? with
  | none =>
    have helems : p.elems = [] := List.getLast?_eq_none_iff.mp hlast
    have hroot : p.isRoot = true := by rw [Path.isRoot, helems]; rfl
    have hwrite : write p v tree = .error .atRoot := by rw [write, helems]; rfl
    exact ⟨fun _ => .inl hroot, fun _ => ⟨.atRoot, hwrite⟩⟩
  | some leaf =>
    have hroot : ¬p.isRoot = true := by
      intro h
      rw [Path.last?, List.isEmpty_iff.mp h] at hlast
      cases hlast
    have hwrite : write p v tree =
        if leaf.keys.isEmpty then writeAt leaf.name v.toJson p.elems.dropLast tree else .error .keyedLeaf := by
      rw [write, show p.elems.getLast? = some leaf from hlast]
    rw [Rejects, or_iff_right hroot, hlast, hwrite]
    cases hkeys : leaf.keys.isEmpty with
    | true =>
      have hleaf : ¬∃ last ∈ some leaf, last.keys.isEmpty = false := by
        rintro ⟨last, ⟨⟩, hlast⟩
        rw [hkeys] at hlast
        cases hlast
      rw [or_iff_right hleaf, if_pos rfl]
      exact exists_writeAt_eq_error_iff
    | false => exact ⟨fun _ => .inl ⟨leaf, rfl, hkeys⟩, fun _ => ⟨.keyedLeaf, rfl⟩⟩

/-- A write fails if and only if the tree rejects the path, and a request that holds it fails with the text of the
path then. -/
theorem write_is_rejected_iff (base : Path) (u : Update) (tree : Json) :
    ((∃ fault, write (base.join u.path) u.value tree = .error fault) ↔ Rejects tree (base.join u.path)) ∧
    ∀ e, MemoryStore.writeAll base [u] tree = .error e ↔
      ∃ fault, write (base.join u.path) u.value tree = .error fault ∧
        e = .invalidPath (base.join u.path).text fault.reason := by
  refine ⟨exists_write_eq_error_iff _ _ _, fun e => ?_⟩
  rw [MemoryStore.writeAll]
  cases hwrite : write (base.join u.path) u.value tree with
  | error fault =>
    constructor
    · intro h
      exact ⟨fault, rfl, (Except.error.inj h).symm⟩
    · rintro ⟨fault', hfault, rfl⟩
      rw [Except.error.inj hfault]
  | ok tree' =>
    constructor
    · intro h
      cases h
    · rintro ⟨fault, hfault, -⟩
      cases hfault

/-- The path of a room, by a rack whose identifier it passes. -/
def roomPath : Path := (((Path.root.push "rack").pushKey "id" "r1").push "id").push "room"

/-- An entry that the walk has just made is in its way, though nothing in the tree is. -/
theorem new_entry_is_in_the_way :
    (∃ fault, write roomPath (.string "west") .emptyObject = .error fault) ∧
      ¬(roomPath.isRoot = true ∨ (∃ leaf ∈ roomPath.last?, leaf.keys.isEmpty = false) ∨
        Obstructed roomPath.elems.dropLast .emptyObject) := by
  refine ⟨⟨.noParent, rfl⟩, ?_⟩
  rintro (hroot | ⟨leaf, hleaf, hkeys⟩ | hobstructed)
  · cases hroot
  · cases Option.some.inj hleaf
    cases hkeys
  · exact not_obstructed_emptyObject _ hobstructed

end ConfigMigration.Tree

import ConfigMigration.Proofs.Tree.Child

/-!
# Laws of editing

Looking up, writing and removing walk along the same elements, and each step of the walk is a lens.  So what was
written is found, and the later of two writings counts (`write_obeys_lens_laws`); what was removed is found no more,
and removing what is not there changes nothing (`remove_obeys_delete_laws`).  A path that conflicts with the one of
the edit leads where it led before.

All of this rests on one invariant: the entries on the way go on showing the keys that they are found by
(`matchesKeys_of_writeAt`, `matchesKeys_removeAt`).  An edit ends below all of them but the last, so this asks
something of the last one only: the leaf shows the text that a key of its name asks for, and nothing is removed that
is named like a key.
-/

namespace ConfigMigration

namespace Tree

/-- Whether elements conflict at the first place where they differ. -/
def Diverge : List PathElem → List PathElem → Prop
  | a :: as, b :: bs => if a = b then Diverge as bs else a.Conflicts b
  | _, _ => False

/-- Whether a leaf with a name and a text fits into the entry that elements lead to: a key of this
name asks for this text. -/
def Admits (name text : String) (elems : List PathElem) : Prop :=
  ∀ e ∈ elems.getLast?, ∀ asked ∈ e.keys.get? name, asked = text

/-- Whether the last of some elements is not named like a key of the element before it. -/
def SparesKeys (elems : List PathElem) : Prop :=
  ∀ last ∈ elems.getLast?, ∀ e ∈ elems.dropLast.getLast?, last.name ∉ e.keys.names

instance decidableDiverge : (as bs : List PathElem) → Decidable (Diverge as bs)
  | a :: as, b :: bs =>
    have : Decidable (Diverge as bs) := decidableDiverge as bs
    inferInstanceAs (Decidable (if a = b then Diverge as bs else a.Conflicts b))
  | [], _ | _ :: _, [] => isFalse id

instance (name text : String) (elems : List PathElem) : Decidable (Admits name text elems) :=
  inferInstanceAs (Decidable (∀ e ∈ elems.getLast?, ∀ asked ∈ e.keys.get? name, asked = text))

instance (elems : List PathElem) : Decidable (SparesKeys elems) :=
  inferInstanceAs (Decidable (∀ last ∈ elems.getLast?, ∀ e ∈ elems.dropLast.getLast?, last.name ∉ e.keys.names))

end Tree

namespace Path

/-- Whether both paths have an element where they first differ, and these two conflict. -/
def Conflicts (p q : Path) : Prop := Tree.Diverge p.elems q.elems

/-- Whether the element before the leaf has no key named like the leaf, or asks there for the text of a value. -/
def Admits (p : Path) (v : Scalar) : Prop :=
  ∀ leaf ∈ p.last?, Tree.Admits leaf.name v.text p.elems.dropLast

/-- Whether the last element is not named like a key of the element before it. -/
def SparesKeys (p : Path) : Prop := Tree.SparesKeys p.elems

instance (p : Path) : Decidable p.SparesKeys := inferInstanceAs (Decidable (Tree.SparesKeys _))

instance (p q : Path) : Decidable (p.Conflicts q) := inferInstanceAs (Decidable (Tree.Diverge _ _))

instance (p : Path) (v : Scalar) : Decidable (p.Admits v) := inferInstanceAs (Decidable (∀ leaf ∈ p.last?, _))

end Path

namespace Tree

variable {e leaf : PathElem} {elems parents : List PathElem} {node node' value : Json} {name text : String}

theorem diverge_cons_iff {a b : PathElem} {as bs : List PathElem} :
    Diverge (a :: as) (b :: bs) ↔ (a = b ∧ Diverge as bs) ∨ (a ≠ b ∧ a.Conflicts b) := by
  rw [Diverge]
  by_cases h : a = b <;> simp [h]

/-! ### Writing -/

theorem Admits.tail (h : Admits name text (e :: elems)) : Admits name text elems := by
  intro last hlast
  refine h last ?_
  rw [List.getLast?_cons, Option.mem_def.mp hlast]
  rfl

/-- An entry that has the keys of an element has them after a writing below it. -/
theorem matchesKeys_of_writeAt (hvalue : value.scalarText? = some text) (hadmits : Admits name text (e :: elems))
    (h : writeAt name value elems node = .ok node') (hnode : matchesKeys e.keys node = true) :
    matchesKeys e.keys node' = true := by
  rw [matchesKeys_iff] at hnode ⊢
  intro key hkey
  by_cases hleaf : elems = [] ∧ key.1 = name
  · obtain ⟨rfl, rfl⟩ := hleaf
    have hasked : key.2 = text := hadmits e rfl key.2 (Dictionary.lookup_of_mem e.keys.ordered hkey)
    have hobject := (isObject_of_writeAt h).1
    rw [eq_setMember_of_writeMember h, Json.keyText?, Json.member?_setMember_self hobject, hasked]
    exact hvalue
  · rw [keyText?_writeAt h fun hnil hname => hleaf ⟨hnil, hname⟩]
    exact hnode key hkey

/-- The child that a writing starts from shows the keys, and so does the one that it puts there. -/
theorem exists_child_of_writeAt (hvalue : value.scalarText? = some text) (hadmits : Admits name text (e :: elems))
    (h : writeAt name value (e :: elems) node = .ok node') :
    IsOpen e node ∧ ∃ child, writeAt name value elems ((child? e node).getD (entryOfKeys e.keys)) = .ok child ∧
      matchesKeys e.keys child = true ∧ node' = setChild e child node := by
  have hopen : IsOpen e node := isOpen_of_changeChild h
  obtain ⟨child, hchild, hnode'⟩ := exists_child_of_changeChild h
  have hkeys := matchesKeys_of_writeAt hvalue hadmits hchild (matchesKeys_getD_child? e node)
  exact ⟨hopen, child, hchild, hkeys, hnode'⟩

theorem find?_writeAt (hleaf : leaf.keys.isEmpty = true) (hvalue : value.scalarText? = some text)
    (hadmits : Admits leaf.name text parents) (h : writeAt leaf.name value parents node = .ok node') :
    find? (parents ++ [leaf]) node' = some value := by
  induction parents generalizing node node' with
  | nil =>
    have hobject := (isObject_of_writeAt h).1
    rw [List.nil_append, find?_singleton, child?_of_isEmpty hleaf, eq_setMember_of_writeMember h,
      Json.member?_setMember_self hobject]
  | cons e parents ih =>
    obtain ⟨hopen, child, hchild, hkeys, rfl⟩ := exists_child_of_writeAt hvalue hadmits h
    rw [List.cons_append, find?, child?_setChild_self hopen.object hkeys]
    exact ih hadmits.tail hchild

/-- Whether a leaf can be written does not depend on its value. -/
theorem exists_writeAt (h : writeAt name value parents node = .ok node') (value' : Json) :
    ∃ node'', writeAt name value' parents node = .ok node'' := by
  induction parents generalizing node node' with
  | nil => exact ⟨_, writeMember_eq_ok (isObject_of_writeAt h).1 name value'⟩
  | cons e parents ih =>
    obtain ⟨child, hchild, -⟩ := exists_child_of_changeChild h
    obtain ⟨child', hchild'⟩ := ih hchild
    refine ⟨setChild e child' node, ?_⟩
    rw [writeAt, changeChild_eq_map (isOpen_of_changeChild h), hchild']
    rfl

theorem writeAt_writeAt (hvalue : value.scalarText? = some text) (hadmits : Admits name text parents)
    (h : writeAt name value parents node = .ok node') (value' : Json) :
    writeAt name value' parents node' = writeAt name value' parents node := by
  induction parents generalizing node node' with
  | nil =>
    have hobject := isObject_of_writeAt h
    have hnode' : node' = node.setMember name value := eq_setMember_of_writeMember h
    rw [writeAt, writeAt, writeMember_eq_ok hobject.2, writeMember_eq_ok hobject.1, hnode', Json.setMember_setMember]
  | cons e parents ih =>
    obtain ⟨hopen, child, hchild, hkeys, rfl⟩ := exists_child_of_writeAt hvalue hadmits h
    have hset : ∀ child', setChild e child' (setChild e child node) = setChild e child' node :=
      fun child' => setChild_setChild hopen.object hkeys
    rw [writeAt, writeAt, changeChild_eq_map (isOpen_setChild hopen child), changeChild_eq_map hopen,
      child?_setChild_self hopen.object hkeys, Option.getD_some, ih hadmits.tail hchild]
    simp only [hset]

/-- Along elements that diverge from those of a writing, what was found is found afterwards. -/
theorem find?_of_writeAt_of_diverge {others : List PathElem} {found : Json} (hleaf : leaf.keys.isEmpty = true)
    (hvalue : value.scalarText? = some text) (hadmits : Admits leaf.name text parents)
    (hdiverge : Diverge (parents ++ [leaf]) others) (h : writeAt leaf.name value parents node = .ok node')
    (hfound : find? others node = some found) : find? others node' = some found := by
  induction parents generalizing others node node' with
  | nil =>
    cases others with
    | nil => exact absurd hdiverge id
    | cons b others =>
      have hconflicts : leaf.Conflicts b := by
        rcases diverge_cons_iff.mp hdiverge with ⟨-, hnil⟩ | ⟨-, hconflicts⟩
        · exact absurd hnil id
        · exact hconflicts
      have hnode' : node' = setChild leaf value node := by
        rw [setChild_of_isEmpty hleaf, eq_setMember_of_writeMember h]
      have hobject := (isObject_of_writeAt h).1
      rwa [hnode', find?, child?_setChild_of_conflicts hconflicts hobject (matchesKeys_of_isEmpty hleaf value)]
  | cons e parents ih =>
    cases others with
    | nil => exact absurd hdiverge id
    | cons b others =>
      obtain ⟨hopen, child, hchild, hkeys, rfl⟩ := exists_child_of_writeAt hvalue hadmits h
      rcases diverge_cons_iff.mp hdiverge with ⟨rfl, hrest⟩ | ⟨-, hconflicts⟩
      · -- the walk of the writing passes through the child that the other one finds
        obtain ⟨old, hold, hfound⟩ := Option.bind_eq_some_iff.mp hfound
        rw [hold, Option.getD_some] at hchild
        rw [find?, child?_setChild_self hopen.object hkeys]
        exact ih hadmits.tail hrest hchild hfound
      · rwa [find?, child?_setChild_of_conflicts hconflicts hopen.object hkeys]

theorem admits_of_elems {p : Path} {v : Scalar} (h : p.Admits v) (hp : p.elems = parents ++ [leaf]) :
    Admits leaf.name v.text parents := by
  have hlast : p.last? = some leaf := by rw [Path.last?, hp, List.getLast?_concat]
  have hfront : p.elems.dropLast = parents := by rw [hp, List.dropLast_concat]
  exact hfront ▸ h leaf hlast

/-- A value that was written is found; of two values that are written to one place the later one counts; and writing a
value again changes nothing. -/
theorem write_obeys_lens_laws {p : Path} {v : Scalar} {tree tree' : Json} (hp : p.Admits v)
    (h : write p v tree = .ok tree') :
    find? p.elems tree' = some v.toJson ∧
    (∀ w, ∃ tree'', write p w tree' = .ok tree'' ∧ write p w tree = .ok tree'') ∧
    write p v tree' = .ok tree' := by
  obtain ⟨parents, leaf, helems, hleaf, hwrite⟩ := exists_leaf_of_write h
  have hadmits := admits_of_elems hp helems
  have hvalue := v.scalarText?_toJson
  have hleafWrite : writeAt leaf.name v.toJson parents tree = .ok tree' := (hwrite v tree).symm.trans h
  have hfound : find? p.elems tree' = some v.toJson := by
    rw [helems]
    exact find?_writeAt hleaf hvalue hadmits hleafWrite
  have hagain : ∀ w, write p w tree' = write p w tree := by
    intro w
    rw [hwrite, hwrite, writeAt_writeAt hvalue hadmits hleafWrite]
  refine ⟨hfound, fun w => ?_, (hagain v).trans h⟩
  obtain ⟨tree'', htree''⟩ := exists_writeAt hleafWrite w.toJson
  rw [← hwrite] at htree''
  exact ⟨tree'', (hagain w).trans htree'', htree''⟩

/-- Two racks of one name, and slots whose numbers are texts and integers. -/
def racks : Json :=
  .object [("rack", .array [
    .object [("id", .string "r1"), ("slot", .array [
      .object [("n", .ofInt 3)], .object [("n", .string "3")], .object [("n", .ofInt 4)]])],
    .object [("id", .string "r1"), ("slot", .array [.object [("n", .ofInt 3)]])],
    .object [("id", .string "r2"), ("slot", .array [.object [("n", .ofInt 3)]])]])]

/-- The path of a slot in a rack. -/
def slotPath (rack slot : String) : Path := (((Path.root.push "rack").pushKey "id" rack).push "slot").pushKey "n" slot

/-- The path of the number of a slot, which is its key too. -/
def slotNumberPath (rack slot : String) : Path := (slotPath rack slot).push "n"

/-- The rack and the slot are made on the way, and the number takes the place of the text under the key. -/
theorem racks_write_slot_number :
    (slotNumberPath "r3" "3").Admits (.uint8 3) ∧
    ∃ tree, write (slotNumberPath "r3" "3") (.uint8 3) racks = .ok tree ∧
      find? (slotNumberPath "r3" "3").elems tree = some (.ofInt 3) ∧
      (∀ w, ∃ tree', write (slotNumberPath "r3" "3") w tree = .ok tree' ∧
        write (slotNumberPath "r3" "3") w racks = .ok tree') ∧
      write (slotNumberPath "r3" "3") (.uint8 3) tree = .ok tree := by
  have hadmits : (slotNumberPath "r3" "3").Admits (.uint8 3) := by decide
  refine ⟨hadmits, _, rfl, ?_⟩
  exact write_obeys_lens_laws hadmits rfl

/-- Along a path that conflicts with the one of a writing, what was found is found afterwards. -/
theorem find?_of_write_of_conflicts {p q : Path} {v : Scalar} {tree tree' found : Json} (hp : p.Admits v)
    (hpq : p.Conflicts q) (h : write p v tree = .ok tree') (hq : find? q.elems tree = some found) :
    find? q.elems tree' = some found := by
  obtain ⟨parents, leaf, helems, hleaf, hwrite⟩ := exists_leaf_of_write h
  have hdiverge : Diverge (parents ++ [leaf]) q.elems := helems ▸ hpq
  rw [hwrite] at h
  exact find?_of_writeAt_of_diverge hleaf v.scalarText?_toJson (admits_of_elems hp helems) hdiverge h hq

theorem racks_find?_behind_write :
    (slotNumberPath "r1" "3").Admits (.string "3") ∧
    (slotNumberPath "r1" "3").Conflicts (slotNumberPath "r1" "4") ∧
    ∃ tree, write (slotNumberPath "r1" "3") (.string "3") racks = .ok tree ∧
      find? (slotPath "r1" "3").elems tree = some (.object [("n", .string "3")]) ∧
      find? (slotNumberPath "r1" "4").elems tree = some (.ofInt 4) := by
  have hadmits : (slotNumberPath "r1" "3").Admits (.string "3") := by decide
  have hconflicts : (slotNumberPath "r1" "3").Conflicts (slotNumberPath "r1" "4") := by decide
  have hfound : find? (slotNumberPath "r1" "4").elems racks = some (.ofInt 4) := rfl
  refine ⟨hadmits, hconflicts, _, rfl, rfl, ?_⟩
  exact find?_of_write_of_conflicts hadmits hconflicts rfl hfound

/-! ### Removing -/

theorem SparesKeys.tail (h : SparesKeys (e :: elems)) : SparesKeys elems := by
  intro last hlast parent hparent
  cases elems with
  | nil => cases hlast
  | cons a elems =>
    have hlast' : last ∈ (e :: a :: elems).getLast? := by rwa [List.getLast?_cons_cons]
    have hparent' : parent ∈ (e :: a :: elems).dropLast.getLast? := by
      rw [List.dropLast_cons_cons, List.getLast?_cons, Option.mem_def.mp hparent]
      rfl
    exact h last hlast' parent hparent'

/-- An entry that has the keys of an element has them after a removal below it. -/
theorem matchesKeys_removeAt (hne : elems ≠ []) (hspares : SparesKeys (e :: elems))
    (hnode : matchesKeys e.keys node = true) : matchesKeys e.keys (removeAt elems node) = true := by
  rw [matchesKeys_iff] at hnode ⊢
  intro key hkey
  have hlast : ∀ last, elems = [last] → key.1 ≠ last.name := by
    rintro last rfl hname
    exact hspares last rfl e rfl (hname ▸ List.mem_map_of_mem hkey)
  rw [keyText?_removeAt hne hlast]
  exact hnode key hkey

theorem child?_removeAt (hne : elems ≠ []) (hspares : SparesKeys (e :: elems)) (node : Json) :
    child? e (removeAt (e :: elems) node) = (child? e node).map (removeAt elems) := by
  rw [removeAt_cons hne]
  exact child?_mapChild_self (fun _ => matchesKeys_removeAt hne hspares) node

theorem find?_removeAt_self (hne : elems ≠ []) (hspares : SparesKeys elems) (node : Json) :
    find? elems (removeAt elems node) = none := by
  induction elems generalizing node with
  | nil => exact absurd rfl hne
  | cons e elems ih =>
    by_cases hlast : elems = []
    · rw [hlast, find?_singleton]
      exact child?_removeChild_self e node
    · rw [find?, child?_removeAt hlast hspares]
      cases child? e node with
      | none => rfl
      | some child => exact ih hlast hspares.tail child

/-- Removing what is not there changes nothing, whatever is named like a key. -/
theorem removeAt_of_find?_eq_none (h : find? elems node = none) : removeAt elems node = node := by
  induction elems generalizing node with
  | nil => cases h
  | cons e elems ih =>
    by_cases hlast : elems = []
    · rw [hlast, find?_singleton] at h
      rw [hlast]
      exact removeChild_eq_self h
    · rw [removeAt_cons hlast]
      refine mapChild_eq_self fun child hchild => ih ?_
      rwa [find?, hchild] at h

/-- Elements that diverge from those of a removal lead where they led before. -/
theorem find?_removeAt_of_diverge {others : List PathElem} (hspares : SparesKeys elems)
    (hdiverge : Diverge elems others) (node : Json) : find? others (removeAt elems node) = find? others node := by
  induction elems generalizing others node with
  | nil => exact absurd hdiverge id
  | cons e elems ih =>
    cases others with
    | nil => exact absurd hdiverge id
    | cons b others =>
      rw [find?, find?]
      rcases diverge_cons_iff.mp hdiverge with ⟨rfl, hrest⟩ | ⟨-, hconflicts⟩
      · have hne : elems ≠ [] := by
          rintro rfl
          exact hrest
        rw [child?_removeAt hne hspares]
        cases child? e node with
        | none => rfl
        | some child => exact ih hspares.tail hrest child
      · by_cases hlast : elems = []
        · have hchild : child? b (removeChild e node) = child? b node :=
            child?_removeChild_of_conflicts hconflicts node
          rw [hlast, removeAt, hchild]
        · rw [removeAt_cons hlast,
            child?_mapChild_of_conflicts hconflicts fun _ => matchesKeys_removeAt hlast hspares]

/-- What is removed is found no more, and every entry with its keys is gone; removing what is not there changes
nothing, so that removing twice is removing once; and a path that conflicts leads where it led before. -/
theorem remove_obeys_delete_laws {p : Path} (hroot : p.isRoot = false) (hp : p.SparesKeys) (tree : Json) :
    find? p.elems (remove p tree) = none ∧
    (∀ last ∈ p.last?, last.keys.isEmpty = false → ∀ parent ∈ find? p.elems.dropLast (remove p tree),
      ∀ entry ∈ parent.itemsAt last.name, matchesKeys last.keys entry = false) ∧
    (find? p.elems tree = none → remove p tree = tree) ∧
    remove p (remove p tree) = remove p tree ∧
    ∀ q : Path, p.Conflicts q → find? q.elems (remove p tree) = find? q.elems tree := by
  have hne : p.elems ≠ [] := by
    intro hnil
    rw [Path.isRoot, hnil] at hroot
    cases hroot
  have hnone : find? p.elems (remove p tree) = none := find?_removeAt_self hne hp tree
  refine ⟨hnone, ?_, removeAt_of_find?_eq_none, removeAt_of_find?_eq_none hnone, fun q hpq => ?_⟩
  · intro last hlast hkeys parent hparent entry hentry
    obtain ⟨front, helems⟩ := List.getLast?_eq_some_iff.mp hlast
    rw [helems, List.dropLast_concat] at hparent
    rw [helems, find?_append, Option.mem_def.mp hparent, Option.bind_some, find?_singleton, child?_of_keyed hkeys,
      List.find?_eq_none] at hnone
    exact Bool.eq_false_iff.mpr (hnone entry hentry)
  · exact find?_removeAt_of_diverge hp hpq tree

theorem racks_remove_slot :
    (slotPath "r1" "3").isRoot = false ∧ (slotPath "r1" "3").SparesKeys ∧
    find? (slotPath "r1" "3").elems.dropLast (remove (slotPath "r1" "3") racks) =
      some (.object [("id", .string "r1"), ("slot", .array [.object [("n", .ofInt 4)]])]) ∧
    find? (slotPath "r1" "3").elems (remove (slotPath "r1" "3") racks) = none ∧
    remove (slotPath "r1" "3") (remove (slotPath "r1" "3") racks) = remove (slotPath "r1" "3") racks ∧
    find? (slotPath "r1" "4").elems (remove (slotPath "r1" "3") racks) = find? (slotPath "r1" "4").elems racks := by
  have hspares : (slotPath "r1" "3").SparesKeys := by decide
  obtain ⟨hnone, -, -, htwice, hframe⟩ := remove_obeys_delete_laws rfl hspares racks
  exact ⟨rfl, hspares, rfl, hnone, htwice, hframe (slotPath "r1" "4") (by decide)⟩

end Tree

end ConfigMigration

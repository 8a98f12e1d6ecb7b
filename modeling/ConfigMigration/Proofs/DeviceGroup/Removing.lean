import ConfigMigration.Proofs.DeviceGroup.Writing

/-!
# Removing groups and blocks

The deletes for a group are one of two kinds: every entry with its identifier goes (`applyTo_deleteGroup`), or blocks
of its entry go (`applyTo_deleteBlocks`).
-/

namespace ConfigMigration.DeviceGroup

open ConfigMigration.Tree

/-- The entries without those that have an identifier. -/
def withoutId (id : String) (entries : List Json) : List Json := entries.filter fun entry => !shows "id" id entry

/-- Removes the blocks with some labels from an entry. -/
def dropBlocks (labels : List String) (entry : Json) : Json :=
  editItems "imsis" (List.filter fun block => !labels.any fun label => shows "imsi-id" label block) entry

/-! ### Entries -/

private theorem edits_dropBlocks {entry : Json} (h : IsGroup entry) (labels : List String) :
    Edits "imsis" (List.filter fun block => !labels.any fun label => shows "imsi-id" label block) entry
      (dropBlocks labels entry) :=
  edits_editItems h.dictionary h.imsis rfl

theorem textAt?_id_dropBlocks (labels : List String) (entry : Json) :
    (dropBlocks labels entry).textAt? "id" = entry.textAt? "id" := by
  rw [Json.textAt?, dropBlocks, member?_editItems_of_ne (by decide), Json.textAt?]

theorem isGroup_dropBlocks {entry : Json} (h : IsGroup entry) (labels : List String) :
    IsGroup (dropBlocks labels entry) := by
  have hmember : ∀ name, name ≠ "imsis" → (dropBlocks labels entry).member? name = entry.member? name :=
    (edits_dropBlocks h labels).others
  refine ⟨isDictionary_editItems h.dictionary _ _, ?_, ?_, ?_, ?_, isListAt_editItems h.dictionary h.imsis _, ?_⟩
  · unfold Json.IsTextAt
    rw [hmember _ (by decide)]
    exact h.id
  · unfold Json.IsTextAt
    rw [hmember _ (by decide)]
    exact h.displayName
  · unfold Json.IsTextAt
    rw [hmember _ (by decide)]
    exact h.description
  · unfold Json.IsTextAt
    rw [hmember _ (by decide)]
    exact h.site
  · rw [(edits_dropBlocks h labels).items]
    exact fun block hb => h.isBlock block (List.mem_filter.mp hb).1

/-- An entry without some blocks shows the blocks that are left. -/
theorem ofJson_dropBlocks {entry : Json} (h : IsGroup entry) (labels : List String) :
    ofJson (dropBlocks labels entry) =
      { ofJson entry with
        imsis := (ofJson entry).imsis.filter fun b => !labels.any fun label => b.id = some label } := by
  have hother : ∀ name, name ≠ "imsis" → (dropBlocks labels entry).textAt? name = entry.textAt? name := by
    intro name hne
    rw [Json.textAt?, (edits_dropBlocks h labels).others name hne, Json.textAt?]
  unfold ofJson
  rw [hother "id" (by decide), hother "display-name" (by decide), hother "description" (by decide),
    hother "site" (by decide), (edits_dropBlocks h labels).items, List.filter_map]
  rfl

theorem dropBlocks_nil {entry : Json} (h : IsGroup entry) : dropBlocks [] entry = entry :=
  (edits_dropBlocks h []).eq_self (List.filter_eq_self.mpr fun _ _ => rfl)

private theorem dropBlocks_dropBlocks {entry : Json} (h : IsGroup entry) (label : String) (labels : List String) :
    dropBlocks labels (dropBlocks [label] entry) = dropBlocks (label :: labels) entry := by
  unfold dropBlocks
  rw [editItems_editItems h.dictionary h.imsis]
  congr 1
  funext items
  rw [List.filter_filter]
  refine List.filter_congr fun block _ => ?_
  rw [List.any_cons, List.any_cons, List.any_nil, Bool.or_false, Bool.not_or, Bool.and_comm]

/-! ### Requests -/

theorem isTree_editItems {tree : Json} (h : IsTree tree) {f : List Json → List Json} (hnil : f [] = [])
    (hf : ∀ group ∈ f (entries tree), IsGroup group) : IsTree (editItems entity f tree) where
  dictionary := isDictionary_editItems h.dictionary _ _
  list := isListAt_editItems h.dictionary h.list _
  isGroup := by
    rw [entries, itemsAt_editItems h.dictionary h.list hnil]
    exact hf

/-- Removing the path of a group drops every entry with its identifier. -/
theorem applyTo_deleteGroup {tree : Json} (h : IsTree tree) (target id : String) :
    MemoryStore.applyTo { target, deletes := [path id] } tree = .ok (editItems entity (withoutId id) tree) :=
  congrArg Except.ok (removeChild_listElem id h.dictionary h.list fun entry he => (h.isGroup entry he).id)

private theorem remove_block {tree : Json} (h : IsTree tree) (id label : String) :
    Tree.remove (Path.root.join ((path id).join (blockPath label))) tree =
      editItems entity (mapFirst (shows "id" id) (dropBlocks [label])) tree := by
  have hblock : ∀ entry, IsGroup entry →
      removeAt [listElem "imsis" "imsi-id" label] entry = dropBlocks [label] entry := by
    intro entry he
    rw [removeAt, removeChild_listElem label he.dictionary he.imsis fun block hb => (he.isBlock block hb).label]
    unfold dropBlocks
    simp only [List.any_cons, List.any_nil, Bool.or_false]
  change mapChild (listElem entity "id" id) (removeAt [listElem "imsis" "imsi-id" label]) tree = _
  rw [mapChild_listElem id _ h.dictionary h.list fun entry he => (h.isGroup entry he).id]
  cases hm : tree.member? entity with
  | none => rw [editItems_of_member?_eq_none hm, editItems_of_member?_eq_none hm]
  | some field =>
    obtain ⟨items, rfl⟩ := h.list field hm
    have hgroups := h.isGroup
    rw [entries, Json.itemsAt_of_member? hm] at hgroups
    rw [editItems_of_member? hm, editItems_of_member? hm,
      mapFirst_congr_right fun entry he => hblock entry (hgroups entry he)]

private theorem isTree_editItems_mapFirst {tree : Json} (h : IsTree tree) (id : String) (labels : List String) :
    IsTree (editItems entity (mapFirst (shows "id" id) (dropBlocks labels)) tree) :=
  isTree_editItems h rfl (forall_mem_mapFirst h.isGroup fun _ he => isGroup_dropBlocks he labels)

/-- Removing the paths of blocks of a group drops them from its first entry. -/
theorem applyTo_deleteBlocks {tree : Json} (h : IsTree tree) (target id : String) (labels : List String) :
    MemoryStore.applyTo { target, deletes := labels.map fun label => (path id).join (blockPath label) } tree =
      .ok (editItems entity (mapFirst (shows "id" id) (dropBlocks labels)) tree) := by
  refine congrArg Except.ok ?_
  change (labels.map fun label => (path id).join (blockPath label)).foldl
    (fun tree path => Tree.remove (Path.root.join path) tree) tree = _
  induction labels generalizing tree with
  | nil =>
    refine ((edits_editItems h.dictionary h.list rfl).eq_self ?_).symm
    have hid : mapFirst (shows "id" id) (dropBlocks []) (entries tree) =
        mapFirst (shows "id" id) (fun entry => entry) (entries tree) :=
      mapFirst_congr_right fun entry he => dropBlocks_nil (h.isGroup entry he)
    exact hid.trans mapFirst_id
  | cons label labels ih =>
    rw [List.map_cons, List.foldl_cons, remove_block h, ih (isTree_editItems_mapFirst h id [label]),
      editItems_editItems h.dictionary h.list]
    cases hm : tree.member? entity with
    | none => rw [editItems_of_member?_eq_none hm, editItems_of_member?_eq_none hm]
    | some field =>
      obtain ⟨items, rfl⟩ := h.list field hm
      have hgroups := h.isGroup
      rw [entries, Json.itemsAt_of_member? hm] at hgroups
      have hshows : ∀ entry, shows "id" id entry = true → shows "id" id (dropBlocks [label] entry) = true := by
        intro entry he
        rwa [shows_iff, textAt?_id_dropBlocks, ← shows_iff]
      rw [editItems_of_member? hm, editItems_of_member? hm, mapFirst_mapFirst hshows,
        mapFirst_congr_right fun entry he => dropBlocks_dropBlocks (hgroups entry he) label labels]

end ConfigMigration.DeviceGroup

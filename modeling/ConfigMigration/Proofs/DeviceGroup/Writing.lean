import ConfigMigration.DeviceGroup.Step
import ConfigMigration.Proofs.DeviceGroup.Reading
import ConfigMigration.Proofs.Tree.Entries
import ConfigMigration.Store.Memory

/-!
# Writing a group

The updates for a group are leaves of one entry of the list of groups: texts of the entry, and ends of its blocks.
Writing them one after the other changes this entry alone (`applyTo_updates`), and afterwards the entry shows the
texts and blocks that were written (`ofJson_writeGroup`).
-/

namespace ConfigMigration

open ConfigMigration.Tree

namespace ImsiBlock

/-- The block with the ends of an interval. -/
def withEnds (i : Interval) (b : ImsiBlock) : ImsiBlock := { b with first := some i.first, last := some i.last }

/-- Writes the ends of intervals into the blocks with their labels; blocks that are missing are put at the end. -/
def writeEnds (intervals : List Interval) (blocks : List ImsiBlock) : List ImsiBlock :=
  intervals.foldl
    (fun blocks i => upsert (fun b => b.id = some i.label) (withEnds i) { id := some i.label } blocks) blocks

end ImsiBlock

namespace DeviceGroup

/-! ### Leaves -/

/-- A leaf of the entry of a group. -/
inductive Leaf where
  /-- A text of the group. -/
  | text (name s : String)
  /-- An end of the block with a label. -/
  | bound (label name : String) (n : UInt64)

namespace Leaf

/-- The update for a leaf, from the path of the group on. -/
def toUpdate : Leaf → Update
  | text name s => ⟨Path.root.push name, .string s⟩
  | bound label name n => ⟨(blockPath label).push name, .uint64 n⟩

/-- Writes a leaf into the entry of a group. -/
def write : Leaf → Json → Json
  | text name s, entry => entry.setMember name (.string s)
  | bound label name n, entry => changeEntry "imsis" "imsi-id" label (·.setMember name (.ofInt n.toNat)) entry

/-- Whether the name of a leaf is one of those that the updates use. -/
def IsKnown : Leaf → Prop
  | text name _ => name = "display-name" ∨ name = "description" ∨ name = "site"
  | bound _ name _ => name = "imsi-range-from" ∨ name = "imsi-range-to"

end Leaf

/-- The leaves for a group and its merged blocks. -/
def leaves (g : DeviceGroup) (merged : List Interval) : List Leaf :=
  (g.displayName.map (.text "display-name")).toList ++ (g.description.map (.text "description")).toList ++
    (g.site.map (.text "site")).toList ++
    merged.flatMap fun i => [.bound i.label "imsi-range-from" i.first, .bound i.label "imsi-range-to" i.last]

/-- Writes a group and its merged blocks into an entry. -/
def writeGroup (g : DeviceGroup) (merged : List Interval) (entry : Json) : Json :=
  (g.leaves merged).foldl (fun entry leaf => leaf.write entry) entry

theorem updates_eq_map (g : DeviceGroup) (merged : List Interval) :
    g.updates merged = (g.leaves merged).map Leaf.toUpdate := by
  have htext : ∀ (name : String) (o : Option String),
      (Update.ofOption? (Path.root.push name) (o.map .string)).toList =
        (o.map (Leaf.text name)).toList.map Leaf.toUpdate := by
    intro name o
    cases o <;> rfl
  unfold updates leaves
  rw [htext, htext, htext, List.map_append, List.map_append, List.map_append, List.map_flatMap]
  rfl

theorem eq_nil_of_updates_eq_nil {g : DeviceGroup} {merged : List Interval} (h : g.updates merged = []) :
    g.displayName = none ∧ g.description = none ∧ g.site = none ∧ merged = [] := by
  rw [updates_eq_map, List.map_eq_nil_iff] at h
  unfold leaves at h
  simp only [List.append_eq_nil_iff, Option.toList_eq_nil_iff, Option.map_eq_none_iff, List.flatMap_eq_nil_iff] at h
  obtain ⟨⟨⟨hname, hdescription⟩, hsite⟩, hmerged⟩ := h
  refine ⟨hname, hdescription, hsite, List.eq_nil_iff_forall_not_mem.mpr fun i hi => ?_⟩
  exact List.cons_ne_nil _ _ (hmerged i hi)

theorem writeGroup_of_updates_eq_nil {g : DeviceGroup} {merged : List Interval} (h : g.updates merged = [])
    (entry : Json) : g.writeGroup merged entry = entry := by
  rw [updates_eq_map, List.map_eq_nil_iff] at h
  rw [writeGroup, h]
  rfl

theorem isKnown_of_mem_leaves {g : DeviceGroup} {merged : List Interval} {leaf : Leaf} (h : leaf ∈ g.leaves merged) :
    leaf.IsKnown := by
  unfold leaves at h
  simp only [List.mem_append, Option.mem_toList, Option.map_eq_some_iff, List.mem_flatMap, List.mem_cons,
    List.not_mem_nil, or_false] at h
  rcases h with ((⟨s, -, rfl⟩ | ⟨s, -, rfl⟩) | ⟨s, -, rfl⟩) | ⟨i, -, rfl | rfl⟩
  · exact .inl rfl
  · exact .inr (.inl rfl)
  · exact .inr (.inr rfl)
  · exact .inl rfl
  · exact .inr rfl

/-! ### What writing keeps -/

theorem isBlock_setMember {block : Json} (h : ImsiBlock.IsBlock block) {name : String}
    (hname : name = "imsi-range-from" ∨ name = "imsi-range-to") (n : UInt64) :
    ImsiBlock.IsBlock (block.setMember name (.ofInt n.toNat)) where
  dictionary := h.dictionary.setMember name _
  label := h.label.setMember_of_ne (by rcases hname with rfl | rfl <;> decide) _
  first := h.first.setMember name n
  last := h.last.setMember name n

theorem isBlock_freshEntry (label : String) : ImsiBlock.IsBlock (freshEntry "imsi-id" label) where
  dictionary := ⟨_, rfl, List.pairwise_singleton _ _⟩
  label := by
    intro field hf
    simp only [freshEntry, Json.member?, List.lookup_cons_self, Option.some.injEq] at hf
    rw [← hf]
    exact .inr rfl
  first := by
    intro field hf
    simp [freshEntry, Json.member?, List.lookup_cons] at hf
  last := by
    intro field hf
    simp [freshEntry, Json.member?, List.lookup_cons] at hf

theorem isGroup_freshEntry (id : String) : IsGroup (freshEntry "id" id) := by
  have hm : ∀ name, name ≠ "id" → (freshEntry "id" id).member? name = none := by
    intro name hne
    rw [freshEntry, Json.member?, List.lookup_cons, beq_eq_false_iff_ne.mpr hne]
    rfl
  have hi : (freshEntry "id" id).itemsAt "imsis" = [] := by
    rw [Json.itemsAt, hm "imsis" (by decide)]
    rfl
  refine ⟨⟨_, rfl, List.pairwise_singleton _ _⟩, ?_, ?_, ?_, ?_, ?_, by simp [hi]⟩
  · intro field hf
    simp only [freshEntry, Json.member?, List.lookup_cons_self, Option.some.injEq] at hf
    rw [← hf]
    exact .inr rfl
  · exact fun field hf => by rw [hm _ (by decide)] at hf; cases hf
  · exact fun field hf => by rw [hm _ (by decide)] at hf; cases hf
  · exact fun field hf => by rw [hm _ (by decide)] at hf; cases hf
  · exact fun field hf => by rw [hm _ (by decide)] at hf; cases hf

theorem isGroup_setMember_imsis {entry : Json} (h : IsGroup entry) {items : List Json}
    (hi : ∀ block ∈ items, ImsiBlock.IsBlock block) : IsGroup (entry.setMember "imsis" (.array items)) where
  dictionary := h.dictionary.setMember _ _
  id := h.id.setMember_of_ne (by decide) _
  displayName := h.displayName.setMember_of_ne (by decide) _
  description := h.description.setMember_of_ne (by decide) _
  site := h.site.setMember_of_ne (by decide) _
  imsis := Json.isListAt_setMember_self h.dictionary.isObject _ _
  isBlock := by
    rw [Json.itemsAt_setMember h.dictionary.isObject]
    exact hi

theorem Leaf.IsKnown.isGroup_write {leaf : Leaf} (hleaf : leaf.IsKnown) {entry : Json} (h : IsGroup entry) :
    IsGroup (leaf.write entry) := by
  cases leaf with
  | text name s =>
    have hne : "imsis" ≠ name := by rcases hleaf with rfl | rfl | rfl <;> decide
    refine ⟨h.dictionary.setMember name _, h.id.setMember name s, h.displayName.setMember name s,
      h.description.setMember name s, h.site.setMember name s, h.imsis.setMember_of_ne hne _, ?_⟩
    rw [write, Json.itemsAt_setMember_of_ne hne]
    exact h.isBlock
  | bound label name n =>
    refine isGroup_setMember_imsis h (forall_mem_upsert h.isBlock (isBlock_freshEntry label) ?_)
    exact fun block hb => isBlock_setMember hb hleaf n

theorem Leaf.IsKnown.textAt?_id_write {leaf : Leaf} (hleaf : leaf.IsKnown) (entry : Json) :
    (leaf.write entry).textAt? "id" = entry.textAt? "id" := by
  cases leaf with
  | text name s => exact Json.textAt?_setMember_of_ne (by rcases hleaf with rfl | rfl | rfl <;> decide) _ _
  | bound label name n => exact Json.textAt?_setMember_of_ne (by decide) _ _

theorem isGroup_writeGroup {g : DeviceGroup} {merged : List Interval} {entry : Json} (h : IsGroup entry) :
    IsGroup (g.writeGroup merged entry) := by
  have hknown := fun leaf (hl : leaf ∈ g.leaves merged) => isKnown_of_mem_leaves hl
  unfold writeGroup
  generalize g.leaves merged = leaves at hknown
  induction leaves generalizing entry with
  | nil => exact h
  | cons leaf leaves ih =>
    rw [List.forall_mem_cons] at hknown
    exact ih (hknown.1.isGroup_write h) hknown.2

theorem textAt?_id_writeGroup (g : DeviceGroup) (merged : List Interval) (entry : Json) :
    (g.writeGroup merged entry).textAt? "id" = entry.textAt? "id" := by
  have hknown := fun leaf (hl : leaf ∈ g.leaves merged) => isKnown_of_mem_leaves hl
  unfold writeGroup
  generalize g.leaves merged = leaves at hknown
  induction leaves generalizing entry with
  | nil => rfl
  | cons leaf leaves ih =>
    rw [List.forall_mem_cons] at hknown
    exact (ih _ hknown.2).trans (hknown.1.textAt?_id_write entry)

/-! ### Requests -/

theorem Leaf.IsKnown.write_eq_ok {leaf : Leaf} (hleaf : leaf.IsKnown) {tree : Json} (ht : IsTree tree) (id : String) :
    Tree.write ((path id).join leaf.toUpdate.path) leaf.toUpdate.value tree =
      .ok (changeEntry entity "id" id leaf.write tree) := by
  have hid : ∀ entry ∈ tree.itemsAt entity, entry.IsTextAt "id" := fun entry he => (ht.isGroup entry he).id
  cases leaf with
  | text name s =>
    refine changeChild_listElem id ht.dictionary.isObject ht.list hid ?_ (writeMember_eq_ok rfl name _)
    exact fun entry he => writeMember_eq_ok (ht.isGroup entry he).dictionary.isObject name _
  | bound label name n =>
    have hbound : ∀ entry, IsGroup entry →
        changeChild (listElem "imsis" "imsi-id" label) (writeMember name (.ofInt n.toNat)) entry =
          .ok ((Leaf.bound label name n).write entry) := by
      intro entry he
      refine changeChild_listElem label he.dictionary.isObject he.imsis (fun block hb => (he.isBlock block hb).label)
        ?_ (writeMember_eq_ok rfl name _)
      exact fun block hb => writeMember_eq_ok (he.isBlock block hb).dictionary.isObject name _
    refine changeChild_listElem id ht.dictionary.isObject ht.list hid ?_ (hbound _ (isGroup_freshEntry id))
    exact fun entry he => hbound entry (ht.isGroup entry he)

theorem isTree_setMember {tree : Json} (h : IsTree tree) {items : List Json}
    (hi : ∀ group ∈ items, IsGroup group) : IsTree (tree.setMember entity (.array items)) where
  dictionary := h.dictionary.setMember _ _
  list := Json.isListAt_setMember_self h.dictionary.isObject _ _
  isGroup := by
    rw [entries, Json.itemsAt_setMember h.dictionary.isObject]
    exact hi

theorem isTree_changeEntry {tree : Json} (h : IsTree tree) (id : String) {f : Json → Json}
    (hf : ∀ entry, IsGroup entry → IsGroup (f entry)) : IsTree (changeEntry entity "id" id f tree) :=
  isTree_setMember h (forall_mem_upsert h.isGroup (isGroup_freshEntry id) hf)

/-- Leaves written one after the other change one entry. -/
theorem writeAll_leaves {leaves : List Leaf} (hne : leaves ≠ []) (hknown : ∀ leaf ∈ leaves, leaf.IsKnown)
    {tree : Json} (ht : IsTree tree) (id : String) :
    MemoryStore.writeAll (path id) (leaves.map Leaf.toUpdate) tree =
      .ok (changeEntry entity "id" id
        (fun entry => leaves.foldl (fun entry leaf => leaf.write entry) entry) tree) := by
  induction leaves generalizing tree with
  | nil => exact absurd rfl hne
  | cons leaf leaves ih =>
    rw [List.forall_mem_cons] at hknown
    rw [List.map_cons, MemoryStore.writeAll]
    rw [hknown.1.write_eq_ok ht id]
    have ht' := isTree_changeEntry ht id fun entry he => hknown.1.isGroup_write he
    cases leaves with
    | nil => rfl
    | cons next leaves =>
      change MemoryStore.writeAll (path id) ((next :: leaves).map Leaf.toUpdate) _ = _
      rw [ih (List.cons_ne_nil _ _) hknown.2 ht']
      -- a leaf leaves the identifier alone, so the next one changes the same entry
      have hshows : ∀ entry, shows "id" id entry = true → shows "id" id (leaf.write entry) = true := by
        intro entry he
        rwa [shows_iff, hknown.1.textAt?_id_write, ← shows_iff]
      unfold changeEntry
      rw [Json.setMember_setMember, Json.itemsAt_setMember ht.dictionary.isObject,
        upsert_upsert (shows_freshEntry "id" id) hshows]
      rfl

/-- The updates for a group change its entry. -/
theorem applyTo_updates {g : DeviceGroup} {merged : List Interval} (hne : g.updates merged ≠ []) {tree : Json}
    (ht : IsTree tree) (target id : String) :
    MemoryStore.applyTo { target, base := some (path id), updates := g.updates merged } tree =
      .ok (changeEntry entity "id" id (g.writeGroup merged) tree) := by
  have hne' : g.leaves merged ≠ [] := by
    intro hnil
    rw [updates_eq_map, hnil] at hne
    exact hne rfl
  unfold MemoryStore.applyTo
  rw [updates_eq_map]
  exact writeAll_leaves hne' (fun leaf hl => isKnown_of_mem_leaves hl) ht id

/-! ### What the entry shows -/

/-- Writes a text into an entry, if there is one. -/
private def setText (name : String) (o : Option String) (entry : Json) : Json :=
  match o with
  | none => entry
  | some s => entry.setMember name (.string s)

private theorem foldl_write_text (name : String) (o : Option String) (entry : Json) :
    (o.map (Leaf.text name)).toList.foldl (fun entry leaf => leaf.write entry) entry = setText name o entry := by
  cases o <;> rfl

private theorem textAt?_setText_self {entry : Json} (h : entry.isObject = true) (name : String) (o : Option String) :
    (setText name o entry).textAt? name = o.or (entry.textAt? name) := by
  cases o with
  | none => rfl
  | some s =>
    rw [setText, Json.textAt?_eq_some_iff.mpr (Json.member?_setMember_self h name _)]
    rfl

private theorem member?_setText_of_ne {name other : String} (h : other ≠ name) (o : Option String) (entry : Json) :
    (setText name o entry).member? other = entry.member? other := by
  cases o with
  | none => rfl
  | some s => exact Json.member?_setMember_of_ne h _ _

private theorem isObject_setText (name : String) (o : Option String) (entry : Json) :
    (setText name o entry).isObject = entry.isObject := by
  cases o with
  | none => rfl
  | some s => exact Json.isObject_setMember _ _ _

/-- Writes the texts of a group into an entry. -/
def writeTexts (g : DeviceGroup) (entry : Json) : Json :=
  setText "site" g.site (setText "description" g.description (setText "display-name" g.displayName entry))

/-- Writes the ends of an interval into a block. -/
def writeBlock (i : Interval) (block : Json) : Json :=
  (block.setMember "imsi-range-from" (.ofInt i.first.toNat)).setMember "imsi-range-to" (.ofInt i.last.toNat)

/-- Writes intervals into the blocks of an entry. -/
def writeBlocks (merged : List Interval) (entry : Json) : Json :=
  merged.foldl (fun entry i => changeEntry "imsis" "imsi-id" i.label (writeBlock i) entry) entry

theorem shows_label_setMember {label : String} {block : Json} {name : String} (hne : "imsi-id" ≠ name) (field : Json)
    (h : shows "imsi-id" label block = true) : shows "imsi-id" label (block.setMember name field) = true := by
  rwa [shows_setMember_of_ne hne]

private theorem write_bounds {entry : Json} (h : entry.isObject = true) (i : Interval) :
    (Leaf.bound i.label "imsi-range-to" i.last).write ((Leaf.bound i.label "imsi-range-from" i.first).write entry) =
      changeEntry "imsis" "imsi-id" i.label (writeBlock i) entry := by
  rw [Leaf.write, Leaf.write]
  unfold changeEntry
  rw [Json.setMember_setMember, Json.itemsAt_setMember h,
    upsert_upsert (shows_freshEntry "imsi-id" i.label) fun block => shows_label_setMember (by decide) _]
  rfl

private theorem foldl_write_bounds {entry : Json} (h : entry.isObject = true) (merged : List Interval) :
    (merged.flatMap fun i =>
      [Leaf.bound i.label "imsi-range-from" i.first, .bound i.label "imsi-range-to" i.last]).foldl
      (fun entry leaf => leaf.write entry) entry = writeBlocks merged entry := by
  unfold writeBlocks
  induction merged generalizing entry with
  | nil => rfl
  | cons i merged ih =>
    rw [List.flatMap_cons, List.foldl_append, List.foldl_cons, List.foldl_cons, List.foldl_nil, write_bounds h,
      List.foldl_cons]
    exact ih (by rw [changeEntry, Json.isObject_setMember, h])

/-- The texts are written first, then the blocks. -/
theorem writeGroup_eq {entry : Json} (h : entry.isObject = true) (g : DeviceGroup) (merged : List Interval) :
    g.writeGroup merged entry = writeBlocks merged (g.writeTexts entry) := by
  unfold writeGroup leaves writeTexts
  rw [List.foldl_append, List.foldl_append, List.foldl_append, foldl_write_text, foldl_write_text, foldl_write_text]
  exact foldl_write_bounds (by rw [isObject_setText, isObject_setText, isObject_setText, h]) merged

theorem writeBlocks_eq_setMember {merged : List Interval} (hne : merged ≠ []) {entry : Json}
    (h : entry.isObject = true) :
    writeBlocks merged entry = entry.setMember "imsis" (.array (merged.foldl
      (fun blocks i => upsert (shows "imsi-id" i.label) (writeBlock i) (freshEntry "imsi-id" i.label) blocks)
      (entry.itemsAt "imsis"))) := by
  induction merged generalizing entry with
  | nil => exact absurd rfl hne
  | cons i merged ih =>
    cases merged with
    | nil => rfl
    | cons j merged =>
      change writeBlocks (j :: merged) (changeEntry "imsis" "imsi-id" i.label (writeBlock i) entry) = _
      rw [ih (List.cons_ne_nil _ _) (by rw [changeEntry, Json.isObject_setMember, h]), changeEntry,
        Json.setMember_setMember, Json.itemsAt_setMember h]
      rfl

private theorem member?_writeBlocks_of_ne {name : String} (h : name ≠ "imsis") (merged : List Interval)
    (entry : Json) : (writeBlocks merged entry).member? name = entry.member? name := by
  unfold writeBlocks
  induction merged generalizing entry with
  | nil => rfl
  | cons i merged ih =>
    rw [List.foldl_cons, ih]
    exact Json.member?_setMember_of_ne h _ _

theorem ofJson_freshEntry_block (label : String) :
    ImsiBlock.ofJson (freshEntry "imsi-id" label) = { id := some label } := by
  simp [ImsiBlock.ofJson, freshEntry, Json.textAt?, Json.uint64At?, Json.member?, List.lookup_cons, Json.text?]

theorem ofJson_writeBlock {block : Json} (h : block.isObject = true) (i : Interval) :
    ImsiBlock.ofJson (writeBlock i block) = (ImsiBlock.ofJson block).withEnds i := by
  have hfrom : (block.setMember "imsi-range-from" (.ofInt i.first.toNat)).isObject = true := by
    rw [Json.isObject_setMember, h]
  unfold ImsiBlock.ofJson ImsiBlock.withEnds writeBlock
  rw [Json.textAt?_setMember_of_ne (by decide), Json.textAt?_setMember_of_ne (by decide),
    Json.uint64At?_setMember_of_ne (by decide), Json.uint64At?_eq_some_iff.mpr (Json.member?_setMember_self h _ _),
    Json.uint64At?_eq_some_iff.mpr (Json.member?_setMember_self hfrom _ _)]

private theorem map_ofJson_writeBlocks {merged : List Interval} {entry : Json} (h : IsGroup entry) :
    ((writeBlocks merged entry).itemsAt "imsis").map ImsiBlock.ofJson =
      ImsiBlock.writeEnds merged ((entry.itemsAt "imsis").map ImsiBlock.ofJson) := by
  unfold writeBlocks ImsiBlock.writeEnds
  induction merged generalizing entry with
  | nil => rfl
  | cons i merged ih =>
    have hblocks : ∀ block ∈ upsert (shows "imsi-id" i.label) (writeBlock i) (freshEntry "imsi-id" i.label)
        (entry.itemsAt "imsis"), ImsiBlock.IsBlock block :=
      forall_mem_upsert h.isBlock (isBlock_freshEntry i.label) fun block hb =>
        isBlock_setMember (isBlock_setMember hb (.inl rfl) _) (.inr rfl) _
    have hentry : IsGroup (changeEntry "imsis" "imsi-id" i.label (writeBlock i) entry) :=
      isGroup_setMember_imsis h hblocks
    rw [List.foldl_cons, List.foldl_cons, ih hentry, changeEntry, Json.itemsAt_setMember h.dictionary.isObject]
    congr 1
    rw [← ofJson_freshEntry_block]
    refine map_upsert (fun _ _ => rfl)
      (fun block hb => ofJson_writeBlock (h.isBlock block hb).dictionary.isObject i) ?_
    exact ofJson_writeBlock rfl i

/-- A group that has been written shows the texts and blocks that were written, and else what was there before. -/
theorem ofJson_writeGroup {entry : Json} (h : IsGroup entry) (g : DeviceGroup) (merged : List Interval) :
    ofJson (g.writeGroup merged entry) =
      { id := (ofJson entry).id
        displayName := g.displayName.or (ofJson entry).displayName
        description := g.description.or (ofJson entry).description
        site := g.site.or (ofJson entry).site
        imsis := ImsiBlock.writeEnds merged (ofJson entry).imsis } := by
  have ho := h.dictionary.isObject
  have htexts : IsGroup (g.writeTexts entry) := by
    have hwritten : IsGroup (g.writeGroup [] entry) := isGroup_writeGroup h
    rwa [writeGroup_eq ho] at hwritten
  have himsis : (g.writeTexts entry).itemsAt "imsis" = entry.itemsAt "imsis" := by
    unfold Json.itemsAt writeTexts
    rw [member?_setText_of_ne (by decide), member?_setText_of_ne (by decide), member?_setText_of_ne (by decide)]
  have hother : ∀ name, name ≠ "imsis" →
      (g.writeGroup merged entry).textAt? name = (g.writeTexts entry).textAt? name := by
    intro name hne
    rw [writeGroup_eq ho, Json.textAt?, member?_writeBlocks_of_ne hne, Json.textAt?]
  have hskip : ∀ (name other : String) (o : Option String) (value : Json), other ≠ name →
      (setText name o value).textAt? other = value.textAt? other := by
    intro name other o value hne
    rw [Json.textAt?, member?_setText_of_ne hne, Json.textAt?]
  have hid := textAt?_id_writeGroup g merged entry
  have hname := hother "display-name" (by decide)
  have hdescription := hother "description" (by decide)
  have hsite := hother "site" (by decide)
  unfold writeTexts at hname hdescription hsite
  rw [hskip "site" _ _ _ (by decide), hskip "description" _ _ _ (by decide), textAt?_setText_self ho] at hname
  rw [hskip "site" _ _ _ (by decide), textAt?_setText_self (by rw [isObject_setText, ho]),
    hskip "display-name" _ _ _ (by decide)] at hdescription
  rw [textAt?_setText_self (by rw [isObject_setText, isObject_setText, ho]), hskip "description" _ _ _ (by decide),
    hskip "display-name" _ _ _ (by decide)] at hsite
  unfold ofJson
  rw [hid, hname, hdescription, hsite, writeGroup_eq ho, map_ofJson_writeBlocks htexts, himsis]

/-- Writing what an entry shows changes nothing. -/
theorem writeGroup_eq_self {entry : Json} (h : IsGroup entry) {merged : List Interval}
    (hm : ∀ i ∈ merged, ∃ b, (ofJson entry).imsis.find? (fun b => b.id = some i.label) = some b ∧
      b.first = some i.first ∧ b.last = some i.last) : (ofJson entry).writeGroup merged entry = entry := by
  have htext : ∀ name s, entry.textAt? name = some s → (Leaf.text name s).write entry = entry :=
    fun name s hs => Json.setMember_of_member?_eq_some h.dictionary (Json.textAt?_eq_some_iff.mp hs)
  have hbound : ∀ label name n b, (entry.itemsAt "imsis").find? (shows "imsi-id" label) = some b →
      b.uint64At? name = some n → (Leaf.bound label name n).write entry = entry := by
    intro label name n b hb hn
    refine (edits_changeEntry h.dictionary h.imsis).eq_self (upsert_eq_self hb ?_)
    have hblock := h.isBlock b (List.mem_of_find?_eq_some hb)
    exact Json.setMember_of_member?_eq_some hblock.dictionary (Json.uint64At?_eq_some_iff.mp hn)
  have hleaf : ∀ leaf ∈ (ofJson entry).leaves merged, leaf.write entry = entry := by
    intro leaf hl
    unfold leaves at hl
    simp only [List.mem_append, Option.mem_toList, Option.map_eq_some_iff, List.mem_flatMap, List.mem_cons,
      List.not_mem_nil, or_false] at hl
    rcases hl with ((⟨s, hs, rfl⟩ | ⟨s, hs, rfl⟩) | ⟨s, hs, rfl⟩) | ⟨i, hi, hl⟩
    · exact htext _ s hs
    · exact htext _ s hs
    · exact htext _ s hs
    · obtain ⟨b, hb, hfirst, hlast⟩ := hm i hi
      change ((entry.itemsAt "imsis").map ImsiBlock.ofJson).find? _ = some b at hb
      rw [List.find?_map, Option.map_eq_some_iff] at hb
      obtain ⟨block, hblock, rfl⟩ := hb
      rcases hl with rfl | rfl
      · exact hbound _ _ _ block hblock hfirst
      · exact hbound _ _ _ block hblock hlast
  unfold writeGroup
  generalize (ofJson entry).leaves merged = leaves at hleaf
  induction leaves with
  | nil => rfl
  | cons leaf leaves ih =>
    rw [List.forall_mem_cons] at hleaf
    rw [List.foldl_cons, hleaf.1, ih hleaf.2]

end DeviceGroup

end ConfigMigration

import ConfigMigration.Proofs.DeviceGroup.CrossTarget

/-!
# Which groups are there afterwards

A run that succeeds lists a new identifier on the destination if and only if it was listed there before, or a group
that gets it has a text or a complete block (`listed_iff`).  A group without texts and complete blocks has nothing to
write, and is removed all the same: it is on neither target afterwards (`bare_group_vanishes`).

The blocks of the trees may be written in any way that is read, so nothing is used but that the requests succeed.
-/

namespace ConfigMigration.DeviceGroup

open MemoryStore ConfigMigration.Tree

/-- Whether a tree lists a group with an identifier. -/
def Lists (tree : Json) (id : String) : Prop := ∃ entry ∈ entries tree, shows "id" id entry = true

/-- What stands under the identifiers of the entries of a tree. -/
def idFields (tree : Json) : List (Option Json) := (entries tree).map (·.member? "id")

/-- A tree, written as an object with a list of objects, that is read as groups. -/
structure IsListed (tree : Json) (gs : List DeviceGroup) : Prop where
  ordered : tree.isOrdered = true
  object : tree.isObject = true
  groups : ∀ entry ∈ entries tree, entry.isObject = true
  decoded : treeDecoder.decode tree.render = .ok gs

/-! ### Identifiers of the entries -/

theorem lists_iff {tree : Json} {id : String} : Lists tree id ↔ some (.string id) ∈ idFields tree := by
  unfold Lists idFields
  rw [List.mem_map]
  refine exists_congr fun entry => and_congr_right fun _ => ?_
  rw [shows_iff, Json.textAt?_eq_some_iff]

theorem IsListed.isKeyed {tree : Json} {gs : List DeviceGroup} (h : IsListed tree gs) : IsKeyed tree :=
  (isKeyed_of_decode_render h.ordered h.object h.groups h.decoded).1

theorem IsWritten.isListed {tree : Json} {gs : List DeviceGroup} (h : IsWritten tree gs) : IsListed tree gs := by
  have hplain := h.plain
  rw [isPlain, Bool.and_eq_true, List.all_eq_true] at hplain
  refine ⟨h.ordered, hplain.1, fun entry he => ?_, h.decoded⟩
  exact (Bool.and_eq_true .. ▸ hplain.2 entry he).1

theorem IsListed.lists_iff {tree : Json} {gs : List DeviceGroup} (h : IsListed tree gs) {id : String} :
    Lists tree id ↔ ∃ g ∈ gs, g.id = some id := by
  have hids := (isKeyed_of_decode_render h.ordered h.object h.groups h.decoded).2
  have hmem : (∃ g ∈ gs, g.id = some id) ↔ some id ∈ gs.map DeviceGroup.id := by rw [List.mem_map]
  rw [hmem, hids, List.mem_map]
  exact exists_congr fun entry => and_congr_right fun _ => shows_iff

/-- A tree with other entries is keyed if their identifiers are texts or were there before. -/
theorem IsKeyed.of_idFields {tree tree' : Json} (h : IsKeyed tree) (hd : tree'.IsDictionary)
    (hl : tree'.IsListAt entity)
    (hfields : ∀ field ∈ idFields tree', (∃ id, field = some (.string id)) ∨ field ∈ idFields tree) :
    IsKeyed tree' := by
  refine ⟨hd, hl, ?_⟩
  intro entry he field hfield
  rcases hfields _ (List.mem_map_of_mem he) with ⟨id, hid⟩ | hbefore
  · rw [hfield, Option.some.injEq] at hid
    rw [hid]
    exact .inr rfl
  · obtain ⟨entry', he', heq⟩ := List.mem_map.mp hbefore
    exact h.key entry' he' field (heq.trans hfield)

/-! ### Requests that succeed -/

/-- Writing into the first entry with an identifier lists the identifier, and keeps the others. -/
theorem lists_of_changeChild {tree tree' : Json} {id : String} {f : Json → Except WriteFault Json} (h : IsKeyed tree)
    (hf : ∀ entry entry', f entry = .ok entry' → entry'.member? "id" = entry.member? "id")
    (hok : changeChild (listElem entity "id" id) f tree = .ok tree') :
    IsKeyed tree' ∧ ∀ other, Lists tree' other ↔ other = id ∨ Lists tree other := by
  obtain ⟨hobject, items, hitems, rfl⟩ := exists_items_of_changeChild hok
  have hfields : idFields (tree.setMember entity (.array items)) =
      upsert (fun field => decide (field.bind Json.text? = some id)) (fun field => field) (some (.string id))
        (idFields tree) := by
    unfold idFields entries
    rw [Json.itemsAt_setMember hobject]
    exact map_of_changeFirst_eq_ok (k := fun entry : Json => entry.member? "id")
      (fun entry he => matchesKeys_listElem (h.key entry he) _ _) hf hitems
  have hself : ∀ field : Option Json,
      decide (field.bind Json.text? = some id) = true ↔ field = some (.string id) := by
    intro field
    rw [decide_eq_true_iff, Option.bind_eq_some_iff]
    simp only [Json.text?_eq_some_iff, exists_eq_right]
  constructor
  · refine h.of_idFields (h.dictionary.setMember _ _) (Json.isListAt_setMember_self hobject _ _) ?_
    intro field hfield
    rw [hfields, mem_upsert_self hself] at hfield
    exact hfield.imp (fun heq => ⟨id, heq⟩) fun hbefore => hbefore
  · intro other
    rw [lists_iff, lists_iff, hfields, mem_upsert_self hself, Option.some.injEq, Json.string.injEq]

theorem Leaf.IsKnown.lists_of_write {leaf : Leaf} (hleaf : leaf.IsKnown) {tree tree' : Json} {id : String}
    (h : IsKeyed tree) (hok : Tree.write ((path id).join leaf.toUpdate.path) leaf.toUpdate.value tree = .ok tree') :
    IsKeyed tree' ∧ ∀ other, Lists tree' other ↔ other = id ∨ Lists tree other := by
  cases leaf with
  | text name s =>
    refine lists_of_changeChild (f := writeMember name (.string s)) h ?_ hok
    intro entry entry' hentry
    rw [eq_setMember_of_writeMember hentry]
    exact Json.member?_setMember_of_ne (by rcases hleaf with rfl | rfl | rfl <;> decide) _ _
  | bound label name n =>
    refine lists_of_changeChild
      (f := changeChild (listElem "imsis" "imsi-id" label) (writeMember name (.ofInt n.toNat))) h ?_ hok
    intro entry entry' hentry
    obtain ⟨-, items, -, rfl⟩ := exists_items_of_changeChild hentry
    exact Json.member?_setMember_of_ne (by decide) _ _

theorem lists_of_writeAll {leaves : List Leaf} (hknown : ∀ leaf ∈ leaves, leaf.IsKnown) {tree tree' : Json}
    {id : String} (h : IsKeyed tree) (hok : writeAll (path id) (leaves.map Leaf.toUpdate) tree = .ok tree') :
    IsKeyed tree' ∧ ∀ other, Lists tree' other ↔ leaves ≠ [] ∧ other = id ∨ Lists tree other := by
  induction leaves generalizing tree with
  | nil =>
    cases hok
    exact ⟨h, fun other => by simp⟩
  | cons leaf leaves ih =>
    rw [List.forall_mem_cons] at hknown
    rw [List.map_cons] at hok
    obtain ⟨tree₁, hwrite, hrest⟩ := exists_write_of_writeAll hok
    obtain ⟨h₁, hlists₁⟩ := hknown.1.lists_of_write h hwrite
    obtain ⟨h', hlists⟩ := ih hknown.2 h₁ hrest
    refine ⟨h', fun other => ?_⟩
    rw [hlists, hlists₁]
    constructor
    · rintro (⟨-, hid⟩ | hid | hbefore)
      · exact .inl ⟨List.cons_ne_nil _ _, hid⟩
      · exact .inl ⟨List.cons_ne_nil _ _, hid⟩
      · exact .inr hbefore
    · rintro (⟨-, hid⟩ | hbefore)
      · exact .inr (.inl hid)
      · exact .inr (.inr hbefore)

theorem lists_of_deleteGroup {tree : Json} (h : IsKeyed tree) (id : String) :
    IsKeyed (Tree.remove (path id) tree) ∧ ∀ other, Lists (Tree.remove (path id) tree) other ↔
      other ≠ id ∧ Lists tree other := by
  have hremove : Tree.remove (path id) tree = editItems entity (withoutId id) tree :=
    removeChild_listElem id h.dictionary h.list h.key
  have hentries : entries (editItems entity (withoutId id) tree) = withoutId id (entries tree) :=
    itemsAt_editItems h.dictionary h.list rfl
  rw [hremove]
  constructor
  · refine ⟨isDictionary_editItems h.dictionary _ _, isListAt_editItems h.dictionary h.list _, ?_⟩
    rw [hentries]
    exact fun entry he => h.key entry (List.mem_filter.mp he).1
  · intro other
    unfold Lists
    rw [hentries]
    constructor
    · rintro ⟨entry, he, hshows⟩
      obtain ⟨he, hkept⟩ := List.mem_filter.mp he
      refine ⟨?_, entry, he, hshows⟩
      rintro rfl
      simp [hshows] at hkept
    · rintro ⟨hne, entry, he, hshows⟩
      refine ⟨entry, List.mem_filter.mpr ⟨he, ?_⟩, hshows⟩
      rw [shows_eq_false_of_ne hne.symm hshows]
      rfl

theorem lists_of_deleteBlock {tree : Json} (h : IsKeyed tree) (id label : String) :
    IsKeyed (Tree.remove ((path id).join (blockPath label)) tree) ∧
      ∀ other, Lists (Tree.remove ((path id).join (blockPath label)) tree) other ↔ Lists tree other := by
  let f := removeAt [listElem "imsis" "imsi-id" label]
  have hf : ∀ entry : Json, (f entry).member? "id" = entry.member? "id" :=
    fun entry => member?_mapMember_of_ne (by decide : "id" ≠ "imsis") _ entry
  have hremove : Tree.remove ((path id).join (blockPath label)) tree =
      editItems entity (mapFirst (shows "id" id) f) tree := mapChild_listElem id f h.dictionary h.list h.key
  have hfields : idFields (editItems entity (mapFirst (shows "id" id) f) tree) = idFields tree := by
    unfold idFields entries
    rw [itemsAt_editItems h.dictionary h.list rfl]
    exact map_mapFirst_of_keeps hf
  rw [hremove]
  constructor
  · refine h.of_idFields (isDictionary_editItems h.dictionary _ _) (isListAt_editItems h.dictionary h.list _) ?_
    rw [hfields]
    exact fun field hfield => .inr hfield
  · intro other
    rw [lists_iff, lists_iff, hfields]

theorem lists_of_deleteBlocks {tree : Json} (h : IsKeyed tree) (id : String) (labels : List String) :
    IsKeyed (removeAll .root (labels.map fun label => (path id).join (blockPath label)) tree) ∧
      ∀ other, Lists (removeAll .root (labels.map fun label => (path id).join (blockPath label)) tree) other ↔
        Lists tree other := by
  induction labels generalizing tree with
  | nil => exact ⟨h, fun _ => Iff.rfl⟩
  | cons label labels ih =>
    obtain ⟨h₁, hlists₁⟩ := lists_of_deleteBlock h id label
    obtain ⟨h', hlists⟩ := ih h₁
    exact ⟨h', fun other => (hlists other).trans (hlists₁ other)⟩

/-! ### Runs that succeed -/

/-- Whether a request writes the group with an identifier. -/
def Writes (id : String) (r : SetRequest) : Prop := r.base = some (path id) ∧ r.updates ≠ []

/-- What a request for a group lists, seen at an identifier that is in normal form. -/
theorem lists_of_applyTo {targets : Targets} {g : DeviceGroup} {r : SetRequest} (hr : r ∈ requestsOf targets g)
    (ht : r.target = targets.destination) {tree tree' : Json} (h : IsKeyed tree) (hok : applyTo r tree = .ok tree')
    {id : String} (hid : Identifier.normalize id = .ok id) :
    IsKeyed tree' ∧ (Lists tree' id ↔ Writes id r ∨ Lists tree id) := by
  obtain ⟨oldId, newId, hold, hnew, ⟨hne, rfl⟩ | ⟨-, rfl⟩⟩ := mem_requestsOf hr
  · have hwrite : writeAll (path newId) (g.updates g.merge.merged) tree = .ok tree' := hok
    rw [updates_eq_map] at hwrite
    obtain ⟨h', hlists⟩ := lists_of_writeAll (fun leaf hl => isKnown_of_mem_leaves hl) h hwrite
    refine ⟨h', (hlists id).trans (or_congr_left ?_)⟩
    have hleaves : g.leaves g.merge.merged ≠ [] := by
      rwa [Ne, updates_eq_map, List.map_eq_nil_iff] at hne
    have hbase : (writeRequest targets g newId).base = some (path id) ↔ id = newId := by
      rw [writeRequest, Option.some.injEq, path_injective.eq_iff, eq_comm]
    rw [Writes, hbase]
    exact ⟨fun hw => ⟨hw.2, hne⟩, fun hw => ⟨hleaves, hw.1⟩⟩
  · have hsame : targets.source = targets.destination := ht
    have hnot : ¬Writes id (removeRequest targets g oldId newId) := fun hw => hw.2 rfl
    rw [or_iff_right hnot]
    have hremove : tree' =
        removeAll .root (deletes oldId newId (targets.source = targets.destination) g.merge) tree :=
      (Except.ok.inj hok).symm
    subst hremove
    unfold deletes
    simp only [hsame, decide_true, true_and]
    split
    · obtain ⟨h', hlists⟩ := lists_of_deleteBlocks h oldId (ImsiBlock.absorbed g.merge)
      exact ⟨h', hlists id⟩
    · rename_i hrenamed
      -- a group that moves has an old identifier that is not in normal form
      have hother : id ≠ oldId := by
        rintro rfl
        exact hrenamed (Except.ok.inj ((normalize_of_newId? hold hnew).1.symm.trans hid))
      obtain ⟨h', hlists⟩ := lists_of_deleteGroup h oldId
      exact ⟨h', (hlists id).trans (and_iff_right hother)⟩

theorem not_writes_of_target_ne {targets : Targets} {g : DeviceGroup} {r : SetRequest} (hr : r ∈ requestsOf targets g)
    (ht : r.target ≠ targets.destination) (id : String) : ¬Writes id r := by
  obtain ⟨oldId, newId, -, -, ⟨-, rfl⟩ | ⟨-, rfl⟩⟩ := mem_requestsOf hr
  · exact absurd rfl ht
  · exact fun hw => hw.2 rfl

theorem lists_of_takes {targets : Targets} {gs : List DeviceGroup} {requests : List SetRequest}
    (hr : ∀ r ∈ requests, ∃ g ∈ gs, r ∈ requestsOf targets g) {tree tree' : Json} (h : IsKeyed tree)
    (htakes : Takes targets.destination requests tree tree') {id : String}
    (hid : Identifier.normalize id = .ok id) :
    Lists tree' id ↔ (∃ r ∈ requests, Writes id r) ∨ Lists tree id := by
  induction htakes with
  | nil => simp
  | @apply r requests tree tree₁ tree' ht happly _ ih =>
    rw [List.forall_mem_cons] at hr
    obtain ⟨g, -, hrg⟩ := hr.1
    obtain ⟨h₁, hlists⟩ := lists_of_applyTo hrg ht h happly hid
    rw [ih hr.2 h₁, hlists, List.exists_mem_cons_iff, or_assoc, or_left_comm]
  | @skip r requests tree tree' ht _ ih =>
    rw [List.forall_mem_cons] at hr
    obtain ⟨g, -, hrg⟩ := hr.1
    rw [ih hr.2 h, List.exists_mem_cons_iff, or_iff_right (not_writes_of_target_ne hrg ht id)]

/-- A run writes the groups that have something to write. -/
theorem exists_writes_iff {targets : Targets} {gs : List DeviceGroup} {id : String} :
    (∃ r ∈ gs.flatMap (requestsOf targets), Writes id r) ↔ ∃ g ∈ gs, g.newId? = some id ∧ g.HasData := by
  constructor
  · rintro ⟨r, hr, hbase, hupdates⟩
    obtain ⟨g, hg, hr⟩ := List.mem_flatMap.mp hr
    obtain ⟨oldId, newId, -, hnew, ⟨hne, rfl⟩ | ⟨-, rfl⟩⟩ := mem_requestsOf hr
    · rw [path_injective (Option.some.inj hbase)] at hnew
      exact ⟨g, hg, hnew, hasData_iff.mpr hne⟩
    · exact absurd rfl hupdates
  · rintro ⟨g, hg, hnew, hdata⟩
    obtain ⟨oldId, hold⟩ := exists_id_of_newId? hnew
    have hne := hasData_iff.mp hdata
    refine ⟨writeRequest targets g id, List.mem_flatMap.mpr ⟨g, hg, ?_⟩, rfl, hne⟩
    rw [requestsOf_eq hold hnew, if_neg hne]
    exact List.mem_append_left _ (List.mem_singleton_self _)

/-- Behind a run that succeeds, the new identifier of a group is listed on the destination if and only if it was
listed before or a group that gets it has a text or a complete block. -/
theorem listed_iff {s : MemoryStore} (targets : Targets) {tree tree' : Json} {gs existing : List DeviceGroup}
    (hgets : s.failingGets = []) (hs : s.tree? targets.source = some tree) (hw : IsListed tree gs)
    (hd : s.tree? targets.destination = some tree') (hw' : IsListed tree' existing) {report : Report}
    (hok : (shippedMigration targets s).result = .ok report) {g : DeviceGroup} (hg : g ∈ gs) {oldId : String}
    (hid : g.id = some oldId) (hletter : Identifier.HasLetter oldId) :
    ∃ newId final, Identifier.normalize oldId = .ok newId ∧
      (shippedMigration targets s).state.tree? targets.destination = some final ∧
      (Lists final newId ↔
        (∃ e ∈ existing, e.id = some newId) ∨ ∃ h ∈ gs, h.newId? = g.newId? ∧ h.HasData) := by
  obtain ⟨newId, hnormal⟩ := Identifier.normalize_isOk_iff.mpr hletter
  have hnew : g.newId? = some newId := newId?_eq_some_iff.mpr ⟨oldId, hid, hnormal⟩
  have hreads : Reads s targets gs existing :=
    ⟨by simp [hgets], by simp [hgets], ⟨tree, hs, hw.decoded⟩, ⟨tree', hd, hw'.decoded⟩⟩
  obtain ⟨hresult, hstate⟩ := shippedMigration_of_ne_nil hreads (List.ne_nil_of_mem hg)
  rw [hok] at hresult
  obtain ⟨final, hfinal, htakes⟩ :=
    takes_of_sendAll (s := fetched targets s) hresult.symm (show (fetched targets s).tree? _ = some tree' from hd)
  refine ⟨newId, final, hnormal, hstate ▸ hfinal, ?_⟩
  have hlists := lists_of_takes (fun r hr => List.mem_flatMap.mp hr) hw'.isKeyed htakes
    (Identifier.normalize_normalize hnormal)
  rw [exists_writes_iff, hw'.lists_iff] at hlists
  rw [hnew]
  exact hlists.trans or_comm

/-- The renamed group of the sample tree is on the destination. -/
theorem sampleTree_listed :
    ∃ newId final, Identifier.normalize "starbucks_NewYork" = .ok newId ∧
      (shippedMigration ⟨"v2", "v21"⟩ sampleStore).state.tree? "v21" = some final ∧
      Lists final newId := by
  have hw : IsWritten sampleTree (groups sampleTree) := isWritten_groups (by decide) (by decide) (by decide)
  have hw' : IsWritten .emptyObject (groups .emptyObject) := isWritten_groups (by decide) (by decide) (by decide)
  obtain ⟨⟨report, hok⟩, -⟩ :=
    shippedMigration_isOk (s := sampleStore) ⟨"v2", "v21"⟩ rfl rfl rfl hw rfl hw' (by decide)
  obtain ⟨newId, final, hnormal, hfinal, hlisted⟩ := listed_iff (s := sampleStore) ⟨"v2", "v21"⟩ rfl rfl hw.isListed
    rfl hw'.isListed hok (List.mem_cons_self ..) rfl (by decide)
  exact ⟨newId, final, hnormal, hfinal, hlisted.mpr (.inr ⟨_, List.mem_cons_self .., rfl, by decide⟩)⟩

/-! ### A group that vanishes -/

/-- A tree with a group that has an identifier and nothing else. -/
def bareTree : Json := .object [("device-group", .array [.object [("id", .string "Cameras")]])]

/-- The store with this tree on target `v2` and an empty tree on target `v21`. -/
def bareStore : MemoryStore := (MemoryStore.empty.insertTree "v2" bareTree).insertTree "v21" .emptyObject

/-- The run succeeds; the group is removed from the source, and nothing is written to the destination. -/
theorem bare_group_vanishes :
    IsListed bareTree [{ id := some "Cameras" }] ∧ IsListed .emptyObject [] ∧
      Identifier.normalize "Cameras" = .ok "cameras" ∧
      (∃ report, (shippedMigration ⟨"v2", "v21"⟩ bareStore).result = .ok report) ∧
      (shippedMigration ⟨"v2", "v21"⟩ bareStore).state.tree? "v2" = some (.object [("device-group", .array [])]) ∧
      (shippedMigration ⟨"v2", "v21"⟩ bareStore).state.tree? "v21" = some .emptyObject ∧
      ¬Lists .emptyObject "cameras" := by
  have hw : IsWritten bareTree (groups bareTree) := isWritten_groups (by decide) (by decide) (by decide)
  have hw' : IsWritten .emptyObject (groups .emptyObject) := isWritten_groups (by decide) (by decide) (by decide)
  obtain ⟨hok, htrees⟩ := shippedMigration_isOk (s := bareStore) ⟨"v2", "v21"⟩ rfl rfl rfl hw rfl hw' (by decide)
  refine ⟨hw.isListed, hw'.isListed, by rfl, hok, ?_, ?_, ?_⟩
  · rw [htrees]
    rfl
  · rw [htrees]
    rfl
  · rintro ⟨entry, he, -⟩
    exact List.not_mem_nil he

end ConfigMigration.DeviceGroup

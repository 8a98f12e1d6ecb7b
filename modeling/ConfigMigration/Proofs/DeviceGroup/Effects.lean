import ConfigMigration.Proofs.DeviceGroup.Migration

/-!
# Effects of the requests for a group

The requests for a group reach the list of groups of a tree only through the entries with its new identifier, on the
destination, and with its old one, on the source.  Entries apart from these are the same behind any sequence of such
requests (`replay_frame`).
-/

namespace ConfigMigration.DeviceGroup

open MemoryStore ConfigMigration.Tree

/-- The request that writes a group. -/
def writeRequest (targets : Targets) (g : DeviceGroup) (newId : String) : SetRequest :=
  { target := targets.destination, base := some (path newId), updates := g.updates g.merge.merged }

/-- The request that removes a group, or the blocks that it loses. -/
def removeRequest (targets : Targets) (g : DeviceGroup) (oldId newId : String) : SetRequest :=
  { target := targets.source, deletes := deletes oldId newId (targets.source = targets.destination) g.merge }

/-- What the writing of a group does to the entries of a tree. -/
def written (g : DeviceGroup) (newId : String) : List Json → List Json :=
  upsert (shows "id" newId) (g.writeGroup g.merge.merged) (freshEntry "id" newId)

/-- What the removing of a group does to the entries of a tree. -/
def removed (targets : Targets) (g : DeviceGroup) (oldId newId : String) : List Json → List Json :=
  if targets.source = targets.destination ∧ newId = oldId then
    mapFirst (shows "id" oldId) (dropBlocks (ImsiBlock.absorbed g.merge))
  else withoutId oldId

/-- No entry with an identifier satisfies a condition. -/
def Apart (id : String) (q : Json → Bool) : Prop := ∀ entry, shows "id" id entry = true → q entry = false

/-- No entry that the requests for a group reach in the tree of a target satisfies a condition. -/
structure Untouched (targets : Targets) (target : String) (q : Json → Bool) (g : DeviceGroup) : Prop where
  new : target = targets.destination → ∀ newId, g.newId? = some newId → Apart newId q
  old : target = targets.source → ∀ oldId newId, g.id = some oldId → g.newId? = some newId → Apart oldId q

/-! ### The requests -/

theorem requestsOf_eq {g : DeviceGroup} {oldId newId : String} (hid : g.id = some oldId)
    (hnew : g.newId? = some newId) (targets : Targets) :
    requestsOf targets g =
      (if g.updates g.merge.merged = [] then [] else [writeRequest targets g newId]) ++
        (if (removeRequest targets g oldId newId).deletes = [] then []
          else [removeRequest targets g oldId newId]) := by
  unfold requestsOf
  rw [action?_of_newId? hid hnew]
  unfold Action.requests Action.updateRequest? Action.deleteRequest?
  simp only [List.isEmpty_iff]
  congr 1
  · change (if g.updates g.merge.merged = [] then none else some (writeRequest targets g newId)).toList = _
    split <;> rfl
  · change (if (removeRequest targets g oldId newId).deletes = [] then none
      else some (removeRequest targets g oldId newId)).toList = _
    split <;> rfl

theorem requestsOf_of_newId?_eq_none {g : DeviceGroup} (h : g.newId? = none) (targets : Targets) :
    requestsOf targets g = [] := by
  unfold requestsOf
  rw [action?_of_newId?_eq_none h]

theorem exists_id_of_newId? {g : DeviceGroup} {newId : String} (h : g.newId? = some newId) :
    ∃ oldId, g.id = some oldId := by
  obtain ⟨oldId, hid, -⟩ := newId?_eq_some_iff.mp h
  exact ⟨oldId, hid⟩

/-- The requests for a group write it, or remove what is left of it. -/
theorem mem_requestsOf {targets : Targets} {g : DeviceGroup} {r : SetRequest} (h : r ∈ requestsOf targets g) :
    ∃ oldId newId, g.id = some oldId ∧ g.newId? = some newId ∧
      (g.updates g.merge.merged ≠ [] ∧ r = writeRequest targets g newId ∨
        (removeRequest targets g oldId newId).deletes ≠ [] ∧ r = removeRequest targets g oldId newId) := by
  cases hnew : g.newId? with
  | none =>
    rw [requestsOf_of_newId?_eq_none hnew] at h
    cases h
  | some newId =>
    obtain ⟨oldId, hid⟩ := exists_id_of_newId? hnew
    rw [requestsOf_eq hid hnew] at h
    refine ⟨oldId, newId, hid, rfl, ?_⟩
    rcases List.mem_append.mp h with h | h
    · split at h
      · cases h
      · rename_i hne
        exact .inl ⟨hne, List.mem_singleton.mp h⟩
    · split at h
      · cases h
      · rename_i hne
        exact .inr ⟨hne, List.mem_singleton.mp h⟩

/-! ### Effects -/

theorem applyTo_writeRequest (targets : Targets) (newId : String) {g : DeviceGroup}
    (hne : g.updates g.merge.merged ≠ []) {tree : Json} (ht : IsTree tree) :
    ∃ tree', applyTo (writeRequest targets g newId) tree = .ok tree' ∧ IsTree tree' ∧
      Edits entity (written g newId) tree tree' :=
  ⟨_, applyTo_updates hne ht targets.destination newId,
    isTree_changeEntry ht newId fun _ he => isGroup_writeGroup he,
    edits_changeEntry ht.dictionary ht.list⟩

theorem isGroup_of_mem_removed {targets : Targets} {g : DeviceGroup} {oldId newId : String} {entries : List Json}
    (h : ∀ entry ∈ entries, IsGroup entry) : ∀ entry ∈ removed targets g oldId newId entries, IsGroup entry := by
  unfold removed
  split
  · exact forall_mem_mapFirst h fun entry he => isGroup_dropBlocks he _
  · exact fun entry he => h entry (List.mem_filter.mp he).1

theorem applyTo_removeRequest (targets : Targets) (g : DeviceGroup) (oldId newId : String) {tree : Json}
    (ht : IsTree tree) :
    ∃ tree', applyTo (removeRequest targets g oldId newId) tree = .ok tree' ∧ IsTree tree' ∧
      Edits entity (removed targets g oldId newId) tree tree' := by
  have hnil : removed targets g oldId newId [] = [] := by
    unfold removed
    split <;> rfl
  refine ⟨editItems entity (removed targets g oldId newId) tree, ?_,
    isTree_editItems ht hnil (isGroup_of_mem_removed ht.isGroup), edits_editItems ht.dictionary ht.list hnil⟩
  unfold removeRequest removed deletes
  simp only [decide_eq_true_eq]
  split
  · exact applyTo_deleteBlocks ht targets.source oldId (ImsiBlock.absorbed g.merge)
  · exact applyTo_deleteGroup ht targets.source oldId

theorem shows_writeGroup {g : DeviceGroup} {merged : List Interval} {id : String} {entry : Json}
    (h : shows "id" id entry = true) : shows "id" id (g.writeGroup merged entry) = true := by
  rwa [shows_iff, textAt?_id_writeGroup, ← shows_iff]

theorem shows_dropBlocks {labels : List String} {id : String} {entry : Json} (h : shows "id" id entry = true) :
    shows "id" id (dropBlocks labels entry) = true := by
  rwa [shows_iff, textAt?_id_dropBlocks, ← shows_iff]

theorem filter_written_of_apart {g : DeviceGroup} {newId : String} {q : Json → Bool} (h : Apart newId q)
    (entries : List Json) : (written g newId entries).filter q = entries.filter q :=
  filter_upsert_of_disjoint h (shows_freshEntry "id" newId) fun _ => shows_writeGroup

theorem filter_written_self (g : DeviceGroup) (id : String) (entries : List Json) :
    (written g id entries).filter (shows "id" id) =
      g.writeGroup g.merge.merged ((entries.filter (shows "id" id)).head?.getD (freshEntry "id" id)) ::
        (entries.filter (shows "id" id)).tail := by
  have hself := filter_upsert_self (p := shows "id" id) (f := g.writeGroup g.merge.merged) (l := entries)
    (shows_freshEntry "id" id) fun _ => shows_writeGroup
  refine hself.trans ?_
  cases entries.filter (shows "id" id) <;> rfl

theorem filter_withoutId_self (id : String) (entries : List Json) :
    (withoutId id entries).filter (shows "id" id) = [] := by
  unfold withoutId
  rw [List.filter_filter]
  refine List.filter_eq_nil_iff.mpr fun entry _ => ?_
  cases shows "id" id entry <;> simp

theorem filter_withoutId_of_apart {id : String} {q : Json → Bool} (h : Apart id q) (entries : List Json) :
    (withoutId id entries).filter q = entries.filter q := by
  unfold withoutId
  rw [List.filter_filter]
  refine List.filter_congr fun entry _ => ?_
  cases hs : shows "id" id entry with
  | true => simp [h entry hs]
  | false => simp

theorem filter_removed_self {targets : Targets} (h : targets.source = targets.destination) {g : DeviceGroup}
    {id : String} {entries rest : List Json} {entry : Json} (he : entries.filter (shows "id" id) = entry :: rest) :
    (removed targets g id id entries).filter (shows "id" id) =
      dropBlocks (ImsiBlock.absorbed g.merge) entry :: rest := by
  have hself := filter_mapFirst_self (p := shows "id" id) (f := dropBlocks (ImsiBlock.absorbed g.merge))
    (l := entries) fun _ => shows_dropBlocks
  rw [he] at hself
  rw [removed, if_pos ⟨h, rfl⟩]
  exact hself

theorem filter_removed_of_apart {targets : Targets} {g : DeviceGroup} {oldId newId : String} {q : Json → Bool}
    (h : Apart oldId q) (entries : List Json) :
    (removed targets g oldId newId entries).filter q = entries.filter q := by
  unfold removed
  split
  · exact filter_mapFirst_of_disjoint h fun _ => shows_dropBlocks
  · exact filter_withoutId_of_apart h entries

/-! ### Sequences -/

theorem applyTo_of_mem_requestsOf {targets : Targets} {g : DeviceGroup} {r : SetRequest}
    (hr : r ∈ requestsOf targets g) {tree : Json} (ht : IsTree tree) :
    ∃ tree', applyTo r tree = .ok tree' ∧ IsTree tree' := by
  obtain ⟨oldId, newId, -, -, ⟨hne, rfl⟩ | ⟨-, rfl⟩⟩ := mem_requestsOf hr
  · obtain ⟨tree', h, ht', -⟩ := applyTo_writeRequest _ _ hne ht
    exact ⟨tree', h, ht'⟩
  · obtain ⟨tree', h, ht', -⟩ := applyTo_removeRequest _ _ _ _ ht
    exact ⟨tree', h, ht'⟩

/-- One request leaves the entries alone that it does not reach, and every other member of the tree. -/
theorem applyTo_frame {targets : Targets} {g : DeviceGroup} {r : SetRequest} (hr : r ∈ requestsOf targets g)
    {tree : Json} (ht : IsTree tree) :
    ∃ tree', applyTo r tree = .ok tree' ∧ IsTree tree' ∧
      (∀ q, Untouched targets r.target q g → (entries tree').filter q = (entries tree).filter q) ∧
      ∀ name, name ≠ entity → tree'.member? name = tree.member? name := by
  obtain ⟨oldId, newId, hid, hnew, ⟨hne, rfl⟩ | ⟨-, rfl⟩⟩ := mem_requestsOf hr
  · obtain ⟨tree', h, ht', hedits⟩ := applyTo_writeRequest _ _ hne ht
    refine ⟨tree', h, ht', fun q hq => ?_, hedits.others⟩
    unfold entries
    rw [hedits.items]
    exact filter_written_of_apart (hq.new rfl newId hnew) _
  · obtain ⟨tree', h, ht', hedits⟩ := applyTo_removeRequest _ _ _ _ ht
    refine ⟨tree', h, ht', fun q hq => ?_, hedits.others⟩
    unfold entries
    rw [hedits.items]
    exact filter_removed_of_apart (hq.old rfl oldId newId hid hnew) _

/-- Any sequence of requests for groups leaves the entries alone that it does not reach. -/
theorem replay_frame {targets : Targets} (target : String) {gs : List DeviceGroup} {requests : List SetRequest}
    (hr : ∀ r ∈ requests, ∃ g ∈ gs, r ∈ requestsOf targets g) {tree : Json} (ht : IsTree tree) :
    ∃ tree', replay target requests (some tree) = some tree' ∧ IsTree tree' ∧
      (∀ q, (∀ g ∈ gs, Untouched targets target q g) → (entries tree').filter q = (entries tree).filter q) ∧
      ∀ name, name ≠ entity → tree'.member? name = tree.member? name := by
  refine replay_induction (P := fun tree' => IsTree tree' ∧
    (∀ q, (∀ g ∈ gs, Untouched targets target q g) → (entries tree').filter q = (entries tree).filter q) ∧
    ∀ name, name ≠ entity → tree'.member? name = tree.member? name) ?_ ⟨ht, fun _ _ => rfl, fun _ _ => rfl⟩
  rintro r hmem rfl tree₁ ⟨ht₁, hfilter, hothers⟩
  obtain ⟨g, hg, hr⟩ := hr r hmem
  obtain ⟨tree₂, happly, ht₂, hfilter₂, hothers₂⟩ := applyTo_frame hr ht₁
  refine ⟨tree₂, happly, ht₂, fun q hq => ?_, fun name hne => ?_⟩
  · exact (hfilter₂ q (hq g hg)).trans (hfilter q hq)
  · exact (hothers₂ name hne).trans (hothers name hne)

theorem replay_flatMap_frame (targets : Targets) (target : String) (gs : List DeviceGroup) {tree : Json}
    (ht : IsTree tree) :
    ∃ tree', replay target (gs.flatMap (requestsOf targets)) (some tree) = some tree' ∧ IsTree tree' ∧
      (∀ q, (∀ g ∈ gs, Untouched targets target q g) → (entries tree').filter q = (entries tree).filter q) ∧
      ∀ name, name ≠ entity → tree'.member? name = tree.member? name :=
  replay_frame target (fun _ hr => List.mem_flatMap.mp hr) ht

/-- Without planted failures a run on trees of groups succeeds, and every request is acknowledged. -/
theorem shippedMigration_isOk {s : MemoryStore} (targets : Targets) {tree tree' : Json}
    {gs existing : List DeviceGroup} (hgets : s.failingGets = []) (hsets : s.failingSets = [])
    (hs : s.tree? targets.source = some tree) (hw : IsWritten tree gs)
    (hd : s.tree? targets.destination = some tree') (hw' : IsWritten tree' existing) (hne : gs ≠ []) :
    (∃ report, (shippedMigration targets s).result = .ok report) ∧
      ∀ target, (shippedMigration targets s).state.tree? target =
        replay target (gs.flatMap (requestsOf targets)) (s.tree? target) := by
  obtain ⟨hresult, hstate⟩ := shippedMigration_of_ne_nil (reads_of_isWritten hgets hs hw hd hw') hne
  have htree : ∀ r ∈ gs.flatMap (requestsOf targets), ∃ tree, (fetched targets s).tree? r.target = some tree ∧
      IsTree tree := by
    intro r hr
    obtain ⟨g, -, hr⟩ := List.mem_flatMap.mp hr
    obtain ⟨oldId, newId, -, -, ⟨-, rfl⟩ | ⟨-, rfl⟩⟩ := mem_requestsOf hr
    · exact ⟨tree', hd, hw'.isTree⟩
    · exact ⟨tree, hs, hw.isTree⟩
  have happly : ∀ r ∈ gs.flatMap (requestsOf targets), ∀ tree, IsTree tree →
      ∃ tree', applyTo r tree = .ok tree' ∧ IsTree tree' := by
    intro r hr tree ht
    obtain ⟨g, -, hr⟩ := List.mem_flatMap.mp hr
    exact applyTo_of_mem_requestsOf hr ht
  obtain ⟨⟨tally, htally⟩, htrees⟩ := sendAll_isOk (s := fetched targets s) hsets htree happly
  constructor
  · rw [htally] at hresult
    cases hreport : (shippedMigration targets s).result with
    | error e =>
      rw [hreport] at hresult
      cases hresult
    | ok report => exact ⟨report, rfl⟩
  · intro target
    rw [hstate]
    exact htrees target

/-! ### Identifiers -/

theorem apart_of_ne {id other : String} (h : other ≠ id) : Apart id (shows "id" other) :=
  fun _ hs => shows_eq_false_of_ne h hs

theorem newId?_ofJson {entry : Json} {id : String} (h : shows "id" id entry = true) :
    (ofJson entry).newId? = (Identifier.normalize id).toOption := by
  unfold newId? ofJson
  simp only [shows_iff.mp h, Option.bind_some]

theorem normalize_of_newId? {g : DeviceGroup} {oldId newId : String} (hid : g.id = some oldId)
    (hnew : g.newId? = some newId) :
    Identifier.normalize oldId = .ok newId ∧ Identifier.normalize newId = .ok newId := by
  obtain ⟨id, hid', h⟩ := newId?_eq_some_iff.mp hnew
  rw [hid] at hid'
  rw [← Option.some.inj hid'] at h
  exact ⟨h, Identifier.normalize_normalize h⟩

/-- The requests for groups do not reach the entries whose identifier has no letter. -/
theorem untouched_of_isConvertible (targets : Targets) (target : String) (g : DeviceGroup) :
    Untouched targets target (fun entry => !(ofJson entry).isConvertible) g := by
  have hapart : ∀ id newId, Identifier.normalize id = .ok newId →
      Apart id fun entry => !(ofJson entry).isConvertible := by
    intro id newId hnormal entry he
    have hnew : (ofJson entry).newId? = some newId := by
      rw [newId?_ofJson he, hnormal]
      rfl
    simp [isConvertible_iff.mpr ⟨newId, hnew⟩]
  constructor
  · intro _ newId hnew
    obtain ⟨oldId, hid⟩ := exists_id_of_newId? hnew
    exact hapart newId newId (normalize_of_newId? hid hnew).2
  · intro _ oldId newId hid hnew
    exact hapart oldId newId (normalize_of_newId? hid hnew).1

/-- Groups with different normal forms share no identifier, old or new. -/
theorem ids_ne {g h : DeviceGroup} {oldId newId oldId' newId' : String} (hg : g.id = some oldId)
    (hg' : g.newId? = some newId) (hh : h.id = some oldId') (hh' : h.newId? = some newId') (hne : newId ≠ newId') :
    oldId ≠ oldId' ∧ oldId ≠ newId' ∧ newId ≠ oldId' := by
  obtain ⟨ho, hn⟩ := normalize_of_newId? hg hg'
  obtain ⟨ho', hn'⟩ := normalize_of_newId? hh hh'
  refine ⟨?_, ?_, ?_⟩
  · rintro rfl
    exact hne (Except.ok.inj (ho.symm.trans ho'))
  · rintro rfl
    exact hne (Except.ok.inj (ho.symm.trans hn'))
  · rintro rfl
    exact hne (Except.ok.inj (hn.symm.trans ho'))

theorem newId?_ne_of_nodup {before after : List DeviceGroup} {g : DeviceGroup} {newId : String}
    (h : ((before ++ g :: after).filterMap newId?).Nodup) (hnew : g.newId? = some newId) {other : DeviceGroup}
    (hother : other ∈ before ++ after) {newId' : String} (hnew' : other.newId? = some newId') : newId' ≠ newId := by
  rintro rfl
  have hperm : (before ++ g :: after).Perm (g :: (before ++ after)) := List.perm_middle
  rw [(hperm.filterMap newId?).nodup_iff, List.filterMap_cons_some hnew, List.nodup_cons] at h
  exact h.1 (List.mem_filterMap.mpr ⟨other, hother, hnew'⟩)

theorem find?_id_of_nodup {gs : List DeviceGroup} (h : (gs.filterMap newId?).Nodup) {g : DeviceGroup} (hg : g ∈ gs)
    {oldId newId : String} (hid : g.id = some oldId) (hnew : g.newId? = some newId) :
    gs.find? (fun g => g.id = some oldId) = some g := by
  obtain ⟨before, after, rfl⟩ := List.append_of_mem hg
  rw [List.find?_append, List.find?_eq_none.mpr]
  · simp [hid]
  · intro other hother hid'
    have hid' : other.id = some oldId := of_decide_eq_true hid'
    have hnew' : other.newId? = some newId := by
      rw [newId?, hid', ← hid]
      exact hnew
    exact newId?_ne_of_nodup h hnew (List.mem_append_left _ hother) hnew' rfl

/-- The requests for other groups do not reach the entries of a group. -/
theorem untouched_of_ne {targets : Targets} {target : String} {g other : DeviceGroup} {oldId newId : String}
    (hid : g.id = some oldId) (hnew : g.newId? = some newId)
    (hne : ∀ newId', other.newId? = some newId' → newId' ≠ newId) :
    Untouched targets target (shows "id" oldId) other ∧ Untouched targets target (shows "id" newId) other := by
  refine ⟨⟨?_, ?_⟩, ?_, ?_⟩
  · intro _ newId' hnew'
    obtain ⟨oldId', hid'⟩ := exists_id_of_newId? hnew'
    exact apart_of_ne (ids_ne hid hnew hid' hnew' (hne newId' hnew').symm).2.1
  · intro _ oldId' newId' hid' hnew'
    exact apart_of_ne (ids_ne hid hnew hid' hnew' (hne newId' hnew').symm).1
  · intro _ newId' hnew'
    exact apart_of_ne (hne newId' hnew').symm
  · intro _ oldId' newId' hid' hnew'
    exact apart_of_ne (ids_ne hid hnew hid' hnew' (hne newId' hnew').symm).2.2

end ConfigMigration.DeviceGroup

import ConfigMigration.Proofs.Store.Replay
import ConfigMigration.Proofs.Tree.Composites
import ConfigMigration.Proofs.Tree.Laws

/-!
# Composite values behind a Set

A Set without deletes makes what is missing on the ways of its updates and keeps the objects and lists that it passes.
It keeps no value at the place of a leaf, neither a scalar nor an object with all that is in it
(`leaf_takes_place_of_object`).  So a path that led to an object or a list leads to one afterwards if and only if no
leaf was written in a place on its way (`leadsToComposite_set_iff`).  Which places these are depends on what the
updates in front have made of the tree.
-/

namespace ConfigMigration

open ConfigMigration.Tree (LeadsToComposite IsBarred)

theorem Scalar.isComposite_toJson (v : Scalar) : v.toJson.isComposite = false := by
  cases v <;> rfl

/-- Whether the leaf of a path, written into a tree, takes a place on the way of another path. -/
def Path.Replaces (p q : Path) (tree : Json) : Prop :=
  ∃ leaf ∈ p.last?, Tree.Replaces leaf.name p.elems.dropLast q.elems tree

/-- Whether no key on the way of a path is named like the leaf of another one. -/
def Path.SparesKeysOf (p q : Path) : Prop := ∀ leaf ∈ p.last?, ∀ e ∈ q.elems, leaf.name ∉ e.keys.names

instance (p q : Path) : Decidable (p.SparesKeysOf q) :=
  inferInstanceAs (Decidable (∀ leaf ∈ p.last?, ∀ e ∈ q.elems, leaf.name ∉ e.keys.names))

namespace MemoryStore

/-- Whether one of some updates, written one after the other, takes a place on the way of a path in the tree that the
updates in front of it have made. -/
def AnyReplaces (base : Path) (updates : List Update) (q : Path) (tree : Json) : Prop :=
  ∃ front u back tree', updates = front ++ u :: back ∧ writeAll base front tree = .ok tree' ∧
    (base.join u.path).Replaces q tree'

variable {base p q : Path} {u : Update} {updates : List Update} {v : Scalar} {tree tree₁ tree' : Json}

/-! ### One update -/

theorem exists_writeAt_of_write (h : Tree.write p v tree = .ok tree') :
    ∃ leaf, p.last? = some leaf ∧ Tree.writeAt leaf.name v.toJson p.elems.dropLast tree = .ok tree' := by
  obtain ⟨parents, leaf, helems, -, hwrite⟩ := Tree.exists_leaf_of_write h
  refine ⟨leaf, by rw [Path.last?, helems, List.getLast?_concat], ?_⟩
  rw [helems, List.dropLast_concat, ← hwrite, h]

theorem leadsToComposite_or_isBarred_of_write (hkeys : p.SparesKeysOf q) (h : Tree.write p v tree = .ok tree')
    (hq : LeadsToComposite q.elems tree) :
    (¬p.Replaces q tree ∧ LeadsToComposite q.elems tree') ∨ (p.Replaces q tree ∧ IsBarred q.elems tree') := by
  obtain ⟨leaf, hleaf, hwrite⟩ := exists_writeAt_of_write h
  have hreplaces : p.Replaces q tree ↔ Tree.Replaces leaf.name p.elems.dropLast q.elems tree := by
    simp [Path.Replaces, hleaf]
  rw [hreplaces]
  exact Tree.leadsToComposite_or_isBarred v.isComposite_toJson (hkeys leaf hleaf) hwrite hq

theorem isBarred_of_write (hkeys : p.SparesKeysOf q) (h : Tree.write p v tree = .ok tree')
    (hq : IsBarred q.elems tree) : IsBarred q.elems tree' := by
  obtain ⟨leaf, hleaf, hwrite⟩ := exists_writeAt_of_write h
  exact hq.of_writeAt v.isComposite_toJson (hkeys leaf hleaf) hwrite

/-! ### One Set -/

theorem anyReplaces_cons_iff (hu : Tree.write (base.join u.path) u.value tree = .ok tree₁) :
    AnyReplaces base (u :: updates) q tree ↔
      (base.join u.path).Replaces q tree ∨ AnyReplaces base updates q tree₁ := by
  constructor
  · rintro ⟨front, w, back, tree', hsplit, hfront, hw⟩
    cases front with
    | nil =>
      obtain ⟨rfl, rfl⟩ := List.cons.inj hsplit
      cases hfront
      exact .inl hw
    | cons u' front =>
      obtain ⟨rfl, rfl⟩ := List.cons.inj hsplit
      rw [writeAll_cons hu] at hfront
      exact .inr ⟨front, w, back, tree', rfl, hfront, hw⟩
  · rintro (hu' | ⟨front, w, back, tree', rfl, hfront, hw⟩)
    · exact ⟨[], u, updates, tree, rfl, rfl, hu'⟩
    · exact ⟨u :: front, w, back, tree', rfl, (writeAll_cons hu).trans hfront, hw⟩

theorem isBarred_of_writeAll (hkeys : ∀ u ∈ updates, (base.join u.path).SparesKeysOf q)
    (h : writeAll base updates tree = .ok tree') (hq : IsBarred q.elems tree) : IsBarred q.elems tree' := by
  induction updates generalizing tree with
  | nil =>
    cases h
    exact hq
  | cons u updates ih =>
    rw [List.forall_mem_cons] at hkeys
    obtain ⟨tree₁, hu, hrest⟩ := exists_write_of_writeAll h
    exact ih hkeys.2 hrest (isBarred_of_write hkeys.1 hu hq)

theorem leadsToComposite_writeAll_iff (hkeys : ∀ u ∈ updates, (base.join u.path).SparesKeysOf q)
    (h : writeAll base updates tree = .ok tree') (hq : LeadsToComposite q.elems tree) :
    LeadsToComposite q.elems tree' ↔ ¬AnyReplaces base updates q tree := by
  induction updates generalizing tree with
  | nil =>
    cases h
    refine iff_of_true hq ?_
    rintro ⟨front, u, back, -, hsplit, -⟩
    exact List.append_ne_nil_of_right_ne_nil front (List.cons_ne_nil u back) hsplit.symm
  | cons u updates ih =>
    rw [List.forall_mem_cons] at hkeys
    obtain ⟨tree₁, hu, hrest⟩ := exists_write_of_writeAll h
    rw [anyReplaces_cons_iff hu]
    rcases leadsToComposite_or_isBarred_of_write hkeys.1 hu hq with ⟨hnot, hq₁⟩ | ⟨hreplaces, hbarred⟩
    · rw [or_iff_right hnot]
      exact ih hkeys.2 hrest hq₁
    · have hlost := (isBarred_of_writeAll hkeys.2 hrest hbarred).not_leadsToComposite
      exact iff_of_false hlost (not_not_intro (.inl hreplaces))

/-- Behind a Set without deletes that is acknowledged, a path that led to an object or a list leads to one if and only
if no update took a place on its way, as long as no key on the way is named like a leaf that was written. -/
theorem leadsToComposite_set_iff {s : MemoryStore} {r : SetRequest} {a : SetResponse} (h : (s.set r).result = .ok a)
    (hdeletes : r.deletes = []) (htree : s.tree? r.target = some tree) (hq : LeadsToComposite q.elems tree)
    (hkeys : ∀ u ∈ r.updates, (r.basePath.join u.path).SparesKeysOf q) :
    ∃ tree', (s.set r).state.tree? r.target = some tree' ∧
      (LeadsToComposite q.elems tree' ↔ ¬AnyReplaces r.basePath r.updates q tree) := by
  obtain ⟨tree', happly⟩ := exists_applyTo_of_set_ok h
  rw [htree, Option.getD_some] at happly
  have hstate : (s.set r).state.tree? r.target = some tree' := by
    rw [tree?_set_of_ok h, htree, step_of_applyTo happly]
  have hwrite : writeAll r.basePath r.updates tree = .ok tree' := by
    rw [applyTo, hdeletes] at happly
    exact happly
  exact ⟨tree', hstate, leadsToComposite_writeAll_iff hkeys hwrite hq⟩

/-- A store with racks and their slots. -/
def rackStore : MemoryStore := empty.insertTree "core" Tree.racks

/-- A request that makes a label in a rack, and writes a text where its slots are. -/
def rackRequest : SetRequest where
  target := "core"
  base := some ((Path.root.push "rack").pushKey "id" "r2")
  updates := [⟨Path.root.push "label", .string "spare"⟩, ⟨Path.root.push "slot", .string "none"⟩]

/-- The slots of one rack are kept, and those of the other one give way to the second update. -/
theorem rackStore_composites_behind_set :
    (rackStore.set rackRequest).result = .ok ⟨"core", 0⟩ ∧ rackRequest.deletes = [] ∧
    rackStore.tree? "core" = some Tree.racks ∧
    (∀ u ∈ rackRequest.updates, (rackRequest.basePath.join u.path).SparesKeysOf (Tree.slotPath "r1" "4")) ∧
    (∀ u ∈ rackRequest.updates, (rackRequest.basePath.join u.path).SparesKeysOf (Tree.slotPath "r2" "3")) ∧
    LeadsToComposite (Tree.slotPath "r1" "4").elems Tree.racks ∧
    LeadsToComposite (Tree.slotPath "r2" "3").elems Tree.racks ∧
    ¬AnyReplaces rackRequest.basePath rackRequest.updates (Tree.slotPath "r1" "4") Tree.racks ∧
    AnyReplaces rackRequest.basePath rackRequest.updates (Tree.slotPath "r2" "3") Tree.racks := by
  have hkeys₁ : ∀ u ∈ rackRequest.updates,
      (rackRequest.basePath.join u.path).SparesKeysOf (Tree.slotPath "r1" "4") := by decide
  have hkeys₂ : ∀ u ∈ rackRequest.updates,
      (rackRequest.basePath.join u.path).SparesKeysOf (Tree.slotPath "r2" "3") := by decide
  have hq₁ : LeadsToComposite (Tree.slotPath "r1" "4").elems Tree.racks := ⟨_, rfl, rfl⟩
  have hq₂ : LeadsToComposite (Tree.slotPath "r2" "3").elems Tree.racks := ⟨_, rfl, rfl⟩
  obtain ⟨tree₁, htree₁, hiff₁⟩ := leadsToComposite_set_iff (s := rackStore) (r := rackRequest) rfl rfl rfl hq₁ hkeys₁
  obtain ⟨tree₂, htree₂, hiff₂⟩ := leadsToComposite_set_iff (s := rackStore) (r := rackRequest) rfl rfl rfl hq₂ hkeys₂
  refine ⟨rfl, rfl, rfl, hkeys₁, hkeys₂, hq₁, hq₂, hiff₁.mp ?_, Classical.byContradiction fun hnot => ?_⟩
  · rw [← Option.some.inj htree₁]
    exact ⟨_, rfl, rfl⟩
  · obtain ⟨found, hfound, -⟩ := hiff₂.mpr hnot
    rw [← Option.some.inj htree₂] at hfound
    cases hfound

/-- A store with an object that has a name. -/
def siteStore : MemoryStore := empty.insertTree "core" (.object [("site", .object [("name", .string "pune")])])

/-- A request that writes a text where the object is. -/
def siteRequest : SetRequest := { target := "core", updates := [⟨Path.root.push "site", .string "west"⟩] }

/-- The Set is acknowledged, no key is named like the leaf, and the object is gone with all that was in it. -/
theorem leaf_takes_place_of_object :
    (siteStore.set siteRequest).result = .ok ⟨"core", 0⟩ ∧ siteRequest.deletes = [] ∧
    (∀ u ∈ siteRequest.updates, (siteRequest.basePath.join u.path).SparesKeysOf (Path.root.push "site")) ∧
    siteStore.tree? "core" = some (.object [("site", .object [("name", .string "pune")])]) ∧
    LeadsToComposite (Path.root.push "site").elems (.object [("site", .object [("name", .string "pune")])]) ∧
    (siteStore.set siteRequest).state.tree? "core" = some (.object [("site", .string "west")]) ∧
    ¬LeadsToComposite (Path.root.push "site").elems (.object [("site", .string "west")]) := by
  refine ⟨rfl, rfl, by decide, rfl, ⟨_, rfl, rfl⟩, rfl, ?_⟩
  rintro ⟨found, hfound, hcomposite⟩
  cases hfound
  cases hcomposite

end MemoryStore

end ConfigMigration

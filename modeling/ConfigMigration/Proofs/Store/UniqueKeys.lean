import ConfigMigration.Proofs.Store.Session
import ConfigMigration.Proofs.Tree.UniqueKeys
import Mathlib.Data.Set.Insert

/-!
# Unique keys in a store

A store whose trees have unique keys keeps them through every sequence of Sets that write along elements with the key
names of their lists and never into a key field (`keys_stay_unique`).  Entries are made in the middle of a path, and
key fields may be removed; neither brings two entries of a list together, and refused requests change nothing.
-/

namespace ConfigMigration

open ConfigMigration.Tree

/-- Whether the updates of a request keep to the key names of lists: the elements that they lead along have exactly
these, and no leaf is named like a key of the element before it.  Nothing is asked of the deletes. -/
structure SetRequest.KeepsKeys (keys : String → Set String) (r : SetRequest) : Prop where
  elems : ∀ u ∈ r.updates, ∀ e ∈ (r.basePath.join u.path).elems, e.UsesKeys keys
  leaf : ∀ u ∈ r.updates, ∀ front e leaf, (r.basePath.join u.path).elems = front ++ [e, leaf] →
    leaf.name ∉ e.keys.names

namespace MemoryStore

/-- Whether the tree of every target has unique keys. -/
def HasUniqueKeys (keys : String → Set String) (s : MemoryStore) : Prop :=
  ∀ target tree, s.tree? target = some tree → tree.HasUniqueKeys keys

variable {keys : String → Set String} {tree tree' : Json}

/-! ### One request -/

theorem hasUniqueKeys_of_write {path : Path} {value : Scalar} {tree' : Json}
    (helems : ∀ e ∈ path.elems, e.UsesKeys keys)
    (hleaf : ∀ front e leaf, path.elems = front ++ [e, leaf] → leaf.name ∉ e.keys.names)
    (h : tree.HasUniqueKeys keys) (hwrite : Tree.write path value tree = .ok tree') : tree'.HasUniqueKeys keys := by
  obtain ⟨parents, leaf, hsplit, -, hwriteAt⟩ := exists_leaf_of_write hwrite
  have hvalue : value.toJson.scalarText?.isSome = true := by
    rw [value.scalarText?_toJson]
    rfl
  rw [hwriteAt] at hwrite
  refine hasUniqueKeys_of_writeAt hvalue (fun e he => helems e ?_) ?_ h hwrite
  · rw [hsplit]
    exact List.mem_append_left _ he
  · intro e he
    obtain ⟨front, rfl⟩ := List.getLast?_eq_some_iff.mp he
    refine hleaf front e leaf ?_
    rw [hsplit, List.append_assoc]
    rfl

theorem hasUniqueKeys_removeAll (base : Path) (deletes : List Path) (h : tree.HasUniqueKeys keys) :
    (removeAll base deletes tree).HasUniqueKeys keys := by
  unfold removeAll
  induction deletes generalizing tree with
  | nil => exact h
  | cons path deletes ih => exact ih (hasUniqueKeys_removeAt (base.join path).elems h)

theorem hasUniqueKeys_of_writeAll {base : Path} {updates : List Update}
    (helems : ∀ u ∈ updates, ∀ e ∈ (base.join u.path).elems, e.UsesKeys keys)
    (hleaf : ∀ u ∈ updates, ∀ front e leaf, (base.join u.path).elems = front ++ [e, leaf] → leaf.name ∉ e.keys.names)
    (h : tree.HasUniqueKeys keys) (hwrite : writeAll base updates tree = .ok tree') : tree'.HasUniqueKeys keys := by
  induction updates generalizing tree with
  | nil =>
    cases hwrite
    exact h
  | cons u updates ih =>
    rw [List.forall_mem_cons] at helems hleaf
    obtain ⟨tree₁, hu, hrest⟩ := exists_write_of_writeAll hwrite
    exact ih helems.2 hleaf.2 (hasUniqueKeys_of_write helems.1 hleaf.1 h hu) hrest

theorem hasUniqueKeys_of_applyTo {r : SetRequest} (hr : r.KeepsKeys keys) (h : tree.HasUniqueKeys keys)
    (happly : applyTo r tree = .ok tree') : tree'.HasUniqueKeys keys :=
  hasUniqueKeys_of_writeAll hr.elems hr.leaf (hasUniqueKeys_removeAll r.basePath r.deletes h) happly

namespace HasUniqueKeys

variable {s : MemoryStore} {target : String}

theorem empty : MemoryStore.empty.HasUniqueKeys keys := fun _ _ htree => nomatch htree

theorem insertTree (hs : s.HasUniqueKeys keys) (h : tree.HasUniqueKeys keys) :
    (s.insertTree target tree).HasUniqueKeys keys := by
  intro other tree' htree'
  rw [tree?_insertTree] at htree'
  split at htree'
  · rwa [← Option.some.inj htree']
  · exact hs other tree' htree'

theorem set {r : SetRequest} (hs : s.HasUniqueKeys keys) (hr : r.KeepsKeys keys) :
    (s.set r).state.HasUniqueKeys keys := by
  rcases set_cases s r with ⟨e, -, -, hstate⟩ | ⟨tree, -, happly, -, hstate⟩
  · rw [hstate]
    exact hs
  · have hold : ((s.tree? r.target).getD .emptyObject).HasUniqueKeys keys := by
      cases htree : s.tree? r.target with
      | none => exact .emptyObject
      | some tree => exact hs r.target tree htree
    have hreceived : MemoryStore.HasUniqueKeys keys { s with sets := s.sets ++ [r] } := hs
    rw [hstate]
    exact hreceived.insertTree (hasUniqueKeys_of_applyTo hr hold happly)

end HasUniqueKeys

/-! ### Runs -/

theorem HasUniqueKeys.afterAll {s : MemoryStore} (hs : s.HasUniqueKeys keys) {requests : List SetRequest}
    (hr : ∀ r ∈ requests, r.KeepsKeys keys) : (s.afterAll (requests.map .set)).HasUniqueKeys keys := by
  induction requests generalizing s with
  | nil => exact hs
  | cons r requests ih =>
    rw [List.forall_mem_cons] at hr
    exact ih (hs.set hr.1) hr.2

/-- A run of Sets that keep to the key names of lists leaves no two entries of a list with the same texts under all of
them, if there were none before, and an element with these key names leads to one entry at most. -/
theorem keys_stay_unique {s : MemoryStore} (hs : s.HasUniqueKeys keys) {requests : List SetRequest}
    (hr : ∀ r ∈ requests, r.KeepsKeys keys) :
    (s.afterAll (requests.map .set)).HasUniqueKeys keys ∧
    ∀ target tree, (s.afterAll (requests.map .set)).tree? target = some tree →
      ∀ elems node, find? elems tree = some node →
      ∀ (e : PathElem) items, e.UsesKeys keys → e.keys.isEmpty = false → node.member? e.name = some (.array items) →
        (items.filter (matchesKeys e.keys)).length ≤ 1 := by
  have hunique := hs.afterAll hr
  refine ⟨hunique, fun target tree htree elems node hnode e items he hkeyed hitems => ?_⟩
  exact (hasUniqueKeys_of_find? (hunique target tree htree) hnode).length_filter_le_one he hkeyed hitems

/-- A store with one tree: a list of two groups, one of them under a number. -/
def twoGroups : MemoryStore :=
  empty.insertTree "core"
    (.object [("group",
      .array [.object [("id", .string "a")], .object [("id", .ofInt 7), ("site", .string "pune")]])])

/-- The second of these requests removes a key field, and the third one is refused. -/
def groupRequests : List SetRequest :=
  [{ target := "core", base := some ((Path.root.push "group").pushKey "id" "b"),
     updates := [⟨Path.root.push "site", .string "thane"⟩] },
   { target := "core", base := some ((Path.root.push "group").pushKey "id" "a"), deletes := [Path.root.push "id"] },
   { target := "core", updates := [⟨(Path.root.push "group").push "size", .uint8 3⟩] }]

private theorem hasUniqueKeys_twoGroups : twoGroups.HasUniqueKeys fun _ => {"id"} := by
  refine .insertTree .empty (Json.hasUniqueKeys_object_iff.mpr (List.forall_mem_singleton.mpr ?_))
  refine Json.hasUniqueKeysAt_array_iff.mpr ⟨?_, List.pairwise_pair.mpr fun hagree => ?_⟩
  · rw [List.forall_mem_cons, List.forall_mem_singleton]
    exact ⟨Json.hasUniqueKeys_of_scalars (by decide), Json.hasUniqueKeys_of_scalars (by decide)⟩
  · obtain ⟨text, ha, hb⟩ := hagree "id" rfl
    exact absurd (ha.trans hb.symm) (by decide)

private theorem keepsKeys_groupRequests : ∀ r ∈ groupRequests, r.KeepsKeys fun _ => {"id"} := by
  have hpair : ∀ {x y e leaf : PathElem} {front}, [x, y] = front ++ [e, leaf] → x = e ∧ y = leaf := by
    intro x y e leaf front h
    have h' : [] ++ [x, y] = front ++ [e, leaf] := h
    simpa using (List.append_inj' h' rfl).2
  rw [groupRequests, List.forall_mem_cons, List.forall_mem_cons, List.forall_mem_singleton]
  refine ⟨⟨?_, ?_⟩, ⟨?_, ?_⟩, ⟨?_, ?_⟩⟩
  · rw [List.forall_mem_singleton]
    refine List.forall_mem_cons.mpr ⟨fun _ name => List.mem_singleton, List.forall_mem_singleton.mpr ?_⟩
    exact PathElem.usesKeys_of_isEmpty rfl
  · rw [List.forall_mem_singleton]
    intro front e leaf hsplit
    obtain ⟨rfl, rfl⟩ := hpair hsplit
    decide
  · exact fun u hu => absurd hu List.not_mem_nil
  · exact fun u hu => absurd hu List.not_mem_nil
  · rw [List.forall_mem_singleton]
    refine List.forall_mem_cons.mpr ⟨?_, List.forall_mem_singleton.mpr ?_⟩
    · exact PathElem.usesKeys_of_isEmpty rfl
    · exact PathElem.usesKeys_of_isEmpty rfl
  · rw [List.forall_mem_singleton]
    intro front e leaf hsplit
    obtain ⟨rfl, rfl⟩ := hpair hsplit
    decide

theorem twoGroups_keys_stay_unique :
    twoGroups.HasUniqueKeys (fun _ => {"id"}) ∧ (∀ r ∈ groupRequests, r.KeepsKeys fun _ => {"id"}) ∧
    (twoGroups.afterAll (groupRequests.map .set)).HasUniqueKeys (fun _ => {"id"}) ∧
    (twoGroups.afterAll (groupRequests.map .set)).tree? "core" =
      some (.object [("group", .array [.object [], .object [("id", .ofInt 7), ("site", .string "pune")],
        .object [("id", .string "b"), ("site", .string "thane")]])]) := by
  have hunique := keys_stay_unique hasUniqueKeys_twoGroups keepsKeys_groupRequests
  exact ⟨hasUniqueKeys_twoGroups, keepsKeys_groupRequests, hunique.1, rfl⟩

end MemoryStore

end ConfigMigration

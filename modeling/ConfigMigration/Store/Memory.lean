import ConfigMigration.Json.Printer
import ConfigMigration.Store.Basic
import ConfigMigration.Tree

/-!
# The store in memory

Trees by target, with a record of every request and with failures that can be planted.  A Set works on a copy of
the tree, and the copy takes the place of the tree only if every part of the request succeeds.
-/

namespace ConfigMigration

/-- A store in memory. -/
structure MemoryStore where
  /-- The tree of each target. -/
  trees : List (String × Json) := []
  /-- The targets of the Get requests received, in order. -/
  gets : List String := []
  /-- The Set requests received, in order. -/
  sets : List SetRequest := []
  /-- The targets whose Get requests fail. -/
  failingGets : List String := []
  /-- The places in `sets` of the requests that fail. -/
  failingSets : List Nat := []

namespace MemoryStore

/-- The store without trees. -/
def empty : MemoryStore := {}

instance : Inhabited MemoryStore := ⟨empty⟩

/-- The tree of a target. -/
def tree? (s : MemoryStore) (target : String) : Option Json := s.trees.lookup target

/-- The store with another tree for a target. -/
def insertTree (s : MemoryStore) (target : String) (tree : Json) : MemoryStore :=
  { s with trees := Dictionary.insert target tree s.trees }

/-- The store in which every Get on a target fails. -/
def failGet (s : MemoryStore) (target : String) : MemoryStore :=
  { s with failingGets := s.failingGets ++ [target] }

/-- The store in which the Set request with a given number fails. -/
def failSet (s : MemoryStore) (index : Nat) : MemoryStore :=
  { s with failingSets := s.failingSets ++ [index] }

/-- Writes the updates of a request, one after the other. -/
def writeAll (base : Path) : List Update → Json → Except StoreError Json
  | [], tree => .ok tree
  | u :: updates, tree =>
    let path := base.join u.path
    match Tree.write path u.value tree with
    | .ok tree => writeAll base updates tree
    | .error fault => .error (.invalidPath path.text fault.reason)

/-- Removes the nodes of a request, one after the other. -/
def removeAll (base : Path) (deletes : List Path) (tree : Json) : Json :=
  deletes.foldl (fun tree path => Tree.remove (base.join path) tree) tree

/-- The tree that a request makes of a tree: nodes are removed first, then leaves are written. -/
def applyTo (r : SetRequest) (tree : Json) : Except StoreError Json :=
  writeAll r.basePath r.updates (removeAll r.basePath r.deletes tree)

/-- Answers a Get. -/
def get (s : MemoryStore) (target : String) (path : Path) : Reply MemoryStore Snapshot where
  result :=
    if target ∈ s.failingGets then .error (.unavailable target)
    else match s.tree? target with
      | none => .error (.unknownTarget target)
      | some tree =>
        match Tree.find? path.elems tree with
        | none => .error (.emptyResponse target)
        | some node => .ok (.ofJson target node)
  state := { s with gets := s.gets ++ [target] }

/-- Answers a Set.  The time stamp is the number of the request among those received. -/
def set (s : MemoryStore) (r : SetRequest) : Reply MemoryStore SetResponse :=
  let index := s.sets.length
  let received := { s with sets := s.sets ++ [r] }
  if index ∈ s.failingSets then
    { result := .error (.unavailable r.target)
      state := received
      events := [{ level := .debug, component := .memoryStore, message := "injected set failure",
                   fields := [("index", .count index), ("target_name", .display r.target)] }] }
  else match applyTo r ((s.tree? r.target).getD .emptyObject) with
    | .error e => { result := .error e, state := received }
    | .ok tree => { result := .ok ⟨r.target, index⟩, state := received.insertTree r.target tree }

instance : Store MemoryStore := ⟨get, set⟩

end MemoryStore

end ConfigMigration

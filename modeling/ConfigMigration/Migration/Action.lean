import ConfigMigration.Store.Basic

/-!
# Actions

What a step does about one entity: leaves to write on the destination, and nodes to remove from the source.  Each
half is one Set request, and an empty half is none.
-/

namespace ConfigMigration

/-- The changes for one migrated entity. -/
structure Action where
  /-- The path in front of every path that is written. -/
  updateBase : Option Path := none
  /-- The leaves to write on the destination. -/
  updates : List Update := []
  /-- The path in front of every path that is removed. -/
  deleteBase : Option Path := none
  /-- The nodes to remove from the source. -/
  deletes : List Path := []
deriving DecidableEq

namespace Action

/-- Whether the action changes nothing. -/
def isEmpty (a : Action) : Bool := a.updates.isEmpty && a.deletes.isEmpty

/-- The request for the updates, if there are any. -/
def updateRequest? (a : Action) (target : String) : Option SetRequest :=
  if a.updates.isEmpty then none else some { target, base := a.updateBase, updates := a.updates }

/-- The request for the deletes, if there are any. -/
def deleteRequest? (a : Action) (target : String) : Option SetRequest :=
  if a.deletes.isEmpty then none else some { target, base := a.deleteBase, deletes := a.deletes }

/-- The requests of an action, in the order in which they are sent. -/
def requests (a : Action) (source destination : String) : List SetRequest :=
  (a.updateRequest? destination).toList ++ (a.deleteRequest? source).toList

end Action

end ConfigMigration

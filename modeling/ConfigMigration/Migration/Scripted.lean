import ConfigMigration.Migration.Step

/-!
# Scripted steps

Transforms that return what they are told to, whatever the trees hold, and the actions that examples are made of.
-/

namespace ConfigMigration

namespace Transform

/-- The transform that returns given actions. -/
def returning (actions : List Action) : Transform where
  description := "scripted(" ++ toString actions.length ++ " actions)"
  run _ _ _ _ := pure (.ok actions)

/-- The transform that fails with a message. -/
def failing (message : String) : Transform where
  description := "scripted(0 actions)"
  run _ _ _ _ := pure (.error (.failed message))

end Transform

/-- A step of the model `test` between two versions. -/
def Step.scripted (start goal : String) (transform : Transform) : Step where
  source := { model := "test", version := ⟨start⟩ }
  destination := { model := "test", version := ⟨goal⟩ }
  transform

/-- The step that does nothing. -/
def Step.noop (start goal : String) : Step := .scripted start goal (.returning [])

namespace Action

/-- The action that writes one leaf. -/
def ofUpdate (base leaf : String) (value : Scalar) : Action :=
  { updateBase := some (.parse base), updates := [⟨.parse leaf, value⟩] }

/-- The action that removes one node. -/
def ofDelete (path : String) : Action := { deletes := [.parse path] }

/-- The action that writes one leaf and removes another node. -/
def ofMove (base leaf : String) (value : Scalar) (old : String) : Action :=
  { ofUpdate base leaf value with deletes := [.parse old] }

end Action

end ConfigMigration

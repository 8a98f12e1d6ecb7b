import ConfigMigration.Path.Parser
import ConfigMigration.Scalar

/-!
# Updates

An update writes a scalar at a path.  A value that is absent gives no update, so that a step can map every optional
field of its source without asking.
-/

namespace ConfigMigration

/-- A scalar and the path that it is written at. -/
structure Update where
  /-- The path of the leaf. -/
  path : Path
  /-- The value of the leaf. -/
  value : Scalar
deriving DecidableEq

namespace Update

/-- The update for an optional value. -/
def ofOption? (path : Path) (value : Option Scalar) : Option Update :=
  value.map (Update.mk path)

/-- The updates with the one for an optional value behind them. -/
def pushOption (updates : List Update) (path : Path) (value : Option Scalar) : List Update :=
  updates ++ (ofOption? path value).toList

end Update

end ConfigMigration

import ConfigMigration.Migration.Chain

/-!
# Failures of a migration

A migration ends at its first failure.  What was applied before stays applied.
-/

namespace ConfigMigration

/-- Why a migration ends. -/
inductive MigrationError where
  /-- The registered steps do not lead to a version. -/
  | chainNotFound (error : ChainNotFound)
  /-- The tree of a target cannot be read. -/
  | fetch (target : String) (cause : StoreError)
  /-- The transform of a step fails. -/
  | transform (start goal : Version) (cause : TransformError)
  /-- A change of a target fails. -/
  | apply (target : String) (cause : StoreError)
deriving DecidableEq, Repr

namespace MigrationError

/-- The message of an error. -/
def message : MigrationError → String
  | chainNotFound error => error.message
  | fetch target cause => "failed to read config of target '" ++ target ++ "': " ++ cause.message
  | transform start goal cause =>
    "migration " ++ start.label ++ " -> " ++ goal.label ++ " failed: " ++ cause.message
  | apply target cause => "failed to apply changes to target '" ++ target ++ "': " ++ cause.message

/-- The messages of the causes of an error, the nearest one first. -/
def causes : MigrationError → List String
  | chainNotFound _ => []
  | fetch _ cause | apply _ cause => cause.message :: cause.causes
  | transform _ _ cause => cause.message :: cause.causes

/-- The version that no chain leads to. -/
def missingVersion? : MigrationError → Option Version
  | chainNotFound error => some error.version
  | _ => none

end MigrationError

end ConfigMigration

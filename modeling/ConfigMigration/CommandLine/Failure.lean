import ConfigMigration.Migration.Error

/-!
# Failures of commands

What ends a command, with the messages of the failure and of its causes, the outermost one first.
-/

namespace ConfigMigration.CommandLine

/-- The targets and the versions of a migration. -/
structure MigrateRequest where
  /-- The targets. -/
  targets : Targets
  /-- The version of the source. -/
  start : Version
  /-- The version of the destination. -/
  goal : Version
deriving DecidableEq, Inhabited, Repr

/-- Why a command fails. -/
inductive Failure where
  /-- The settings file cannot be used. -/
  | settingsFile (path : String) (cause : SettingsError)
  /-- The settings cannot be used. -/
  | settings (cause : SettingsError)
  /-- The store cannot be set up. -/
  | client (cause : StoreError)
  /-- The migration fails. -/
  | migration (request : MigrateRequest) (cause : MigrationError)
  /-- No chain leads from one version to the other. -/
  | chainNotFound (cause : ChainNotFound)
deriving DecidableEq, Repr

namespace Failure

/-- The messages of a failure and of its causes, the outermost one first. -/
def messages : Failure → List String
  | settingsFile path cause => ("failed to load store settings from " ++ path) :: cause.message :: cause.causes
  | settings cause => "invalid store settings" :: cause.message :: cause.causes
  | client cause => "failed to create store client" :: cause.message :: cause.causes
  | migration r cause =>
    ("migration of '" ++ r.targets.source ++ "' (" ++ r.start.label ++ ") to '" ++ r.targets.destination ++ "' (" ++
      r.goal.label ++ ") failed") :: cause.message :: cause.causes
  | chainNotFound cause => [cause.message]

/-- The messages in one line. -/
def text (f : Failure) : String := ": ".intercalate f.messages

end Failure

end ConfigMigration.CommandLine

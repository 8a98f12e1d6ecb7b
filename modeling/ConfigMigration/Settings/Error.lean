import ConfigMigration.Files

/-!
# Faults of settings
-/

namespace ConfigMigration

/-- Why settings cannot be used. -/
inductive SettingsError where
  /-- A file that they name cannot be read. -/
  | unreadable (path : String) (cause : FileError)
  /-- They are not written as settings are. -/
  | malformed
  /-- They contradict each other or lack something. -/
  | invalid (reason : String)
deriving DecidableEq, Repr

namespace SettingsError

/-- The message of an error. -/
def message : SettingsError → String
  | unreadable path cause => "io error reading " ++ path ++ ": " ++ cause.message
  | malformed => "invalid config file: <toml>"
  | invalid reason => reason

/-- The messages of the causes of an error, the nearest one first. -/
def causes : SettingsError → List String
  | unreadable _ cause => [cause.message]
  | malformed => ["<toml>"]
  | invalid _ => []

end SettingsError

end ConfigMigration

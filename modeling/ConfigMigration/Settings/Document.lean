import ConfigMigration.Settings.Basic
import ConfigMigration.Toml.Document

/-!
# Settings in TOML

Settings are read from a table, or from an array of the values in the order in which they are declared.  A value that
is missing has its default; other names are refused.
-/

namespace ConfigMigration

open Toml (Value)

/-- The credential files that a value describes. -/
def TlsSettings.ofToml? (v : Value) : Option TlsSettings := do
  let members ← v.members? ["ca_cert", "client_cert", "client_key", "disabled"]
  let path (name : String) : Option (Option String) := (members.lookup name).mapM Value.string?
  return { caCert := ← path "ca_cert"
           clientCert := ← path "client_cert"
           clientKey := ← path "client_key"
           disabled := (← (members.lookup "disabled").mapM Value.bool?).getD false }

namespace StoreSettings

/-- The settings that a value describes. -/
def ofToml? (v : Value) : Option StoreSettings := do
  let members ← v.members? ["address", "tls", "timeout_secs"]
  let standard : StoreSettings := {}
  return { address := (← (members.lookup "address").mapM Value.string?).getD standard.address
           tls := (← (members.lookup "tls").mapM TlsSettings.ofToml?).getD standard.tls
           timeoutSecs := (← (members.lookup "timeout_secs").mapM Value.nat?).map (·.toUInt64) }

/-- The settings of a document. -/
def parse (text : String) : Except SettingsError StoreSettings :=
  match Toml.parse? text >>= ofToml? with
  | some s => .ok s
  | none => .error .malformed

/-- The settings of the document in a file. -/
def load (files : Files) (path : String) : Except SettingsError StoreSettings :=
  (files.readText path).mapError (.unreadable path) >>= parse

end StoreSettings

end ConfigMigration

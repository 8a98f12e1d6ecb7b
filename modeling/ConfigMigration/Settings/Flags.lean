import ConfigMigration.CommandLine.Failure
import ConfigMigration.Settings.Document

/-!
# Settings from flags

Flags of a command come before what a settings file says.  The certificate and the key of the client change only
together, so that none of the two is paired with the other one of the file.
-/

namespace ConfigMigration

open CommandLine (Failure)

/-- The flags about the store. -/
structure StoreFlags where
  /-- The settings file. -/
  config : Option String := none
  /-- The address of the gateway. -/
  address : Option String := none
  /-- The certificates of the authorities to trust. -/
  caCert : Option String := none
  /-- The certificate of the client. -/
  clientCert : Option String := none
  /-- The private key of the client. -/
  clientKey : Option String := none
  /-- Whether to go without credentials. -/
  noTls : Bool := false
  /-- How many seconds to wait for an answer. -/
  timeoutSecs : Option UInt64 := none
deriving DecidableEq, Inhabited, Repr

namespace StoreFlags

/-- The credential files where the flags come first. -/
def overlayTls (f : StoreFlags) (t : TlsSettings) : TlsSettings :=
  let t := { t with caCert := f.caCert.or t.caCert, disabled := f.noTls || t.disabled }
  match f.clientCert, f.clientKey with
  | some cert, some key => { t with clientCert := some cert, clientKey := some key }
  | _, _ => t

/-- The settings where the flags come first. -/
def overlay (f : StoreFlags) (s : StoreSettings) : StoreSettings where
  address := f.address.getD s.address
  tls := f.overlayTls s.tls
  timeoutSecs := f.timeoutSecs.or s.timeoutSecs

/-- The settings under the flags: those of the settings file, or the standard ones. -/
def base (files : Files) : Option String → Logged (Except Failure StoreSettings)
  | none => pure (.ok {})
  | some path =>
    match StoreSettings.load files path with
    | .error e => pure (.error (.settingsFile path e))
    | .ok s => do
      Logged.log { level := .debug, component := .settings, message := "loaded store settings",
                   fields := [("path", .display path)] }
      return .ok s

/-- The settings to use. -/
def resolve (files : Files) (f : StoreFlags) : Logged (Except Failure StoreSettings) := do
  return (← base files f.config) >>= fun s =>
    ((f.overlay s).validate.map fun _ => f.overlay s).mapError .settings

end StoreFlags

end ConfigMigration

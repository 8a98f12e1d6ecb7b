import ConfigMigration.Settings.Error
import ConfigMigration.Text.Blank

/-!
# Settings of the store

Where the gateway is, how long to wait for it, and the files with the credentials.  Credentials that are switched
off are neither checked nor read, so the paths of their files do not matter.
-/

namespace ConfigMigration

/-- The files with the credentials. -/
structure TlsSettings where
  /-- The certificates of the authorities to trust. -/
  caCert : Option String := none
  /-- The certificate of the client. -/
  clientCert : Option String := none
  /-- The private key of the client. -/
  clientKey : Option String := none
  /-- Whether credentials are switched off. -/
  disabled : Bool := false
deriving DecidableEq, Inhabited, Repr

/-- The settings of the store. -/
structure StoreSettings where
  /-- The address of the gateway. -/
  address : String := "https://onos-config:5150"
  /-- The files with the credentials. -/
  tls : TlsSettings := {}
  /-- How many seconds to wait for an answer. -/
  timeoutSecs : Option UInt64 := none
deriving DecidableEq, Inhabited, Repr

namespace TlsSettings

/-- Checks that the certificate and the key of the client are given together. -/
def validate (t : TlsSettings) : Except SettingsError Unit :=
  if t.disabled then .ok ()
  else match t.clientCert, t.clientKey with
    | some _, none => .error (.invalid "client_cert is set but client_key is missing")
    | none, some _ => .error (.invalid "client_key is set but client_cert is missing")
    | _, _ => .ok ()

/-- The bytes of a file with credentials. -/
def readFile (files : Files) (path : String) : Except SettingsError ByteArray :=
  (files path).mapError (.unreadable path)

/-- The certificates of the authorities, where a file for them is given. -/
def readCa (files : Files) (t : TlsSettings) : Except SettingsError (Option ByteArray) :=
  match t.disabled, t.caCert with
  | false, some path => some <$> readFile files path
  | _, _ => .ok none

/-- Two texts, the second one on a line of its own. -/
def joinLines (first second : ByteArray) : ByteArray :=
  if first.toList.getLast? = some '\n'.toUInt8 then first ++ second
  else first.push '\n'.toUInt8 ++ second

/-- The certificate of the client and behind it its key, where files for both are given. -/
def readIdentity (files : Files) (t : TlsSettings) : Except SettingsError (Option ByteArray) :=
  match t.disabled, t.clientCert, t.clientKey with
  | false, some cert, some key => do
    let cert ← readFile files cert
    let key ← readFile files key
    return some (joinLines cert key)
  | _, _, _ => .ok none

end TlsSettings

namespace StoreSettings

/-- Checks that the settings can be used. -/
def validate (s : StoreSettings) : Except SettingsError Unit :=
  if (Text.trim s.address).isEmpty then .error (.invalid "store address is empty")
  else if !(s.address.startsWith "http://" || s.address.startsWith "https://") then
    .error (.invalid ("store address must start with http:// or https://: " ++ s.address))
  else if s.timeoutSecs = some 0 then .error (.invalid "timeout_secs must be positive")
  else s.tls.validate

end StoreSettings

end ConfigMigration

import ConfigMigration.Credentials.Certificate
import ConfigMigration.Credentials.PrivateKey
import ConfigMigration.Settings.Basic
import ConfigMigration.Store.Basic

/-!
# The use of credentials

Settings name files with credentials: the certificates of authorities, and an identity, which is a private key and the
certificate of its public key.
-/

namespace ConfigMigration.Credentials

/-- Whether the authorities among sections can be trusted: each certificate is one. -/
def canTrust (sections : List Section) : Bool :=
  sections.all fun s => s.kind ≠ .certificate || (Certificate.parseAuthority? s.bytes).isSome

/-- The form of the key in a section, and its bytes. -/
def privateKey? (s : Section) : Option (KeyForm × List UInt8) :=
  match s.kind with
  | .privateKey form => some (form, s.bytes)
  | _ => none

/-- The public key that the first certificate among sections certifies. -/
def certified? (sections : List Section) : Option (List UInt8) := do
  let s ← sections.find? (·.kind = .certificate)
  return (← Certificate.parse? s.bytes).publicKey

/-- The public key of the last private one among sections. -/
def owned? (sections : List Section) : Option (List UInt8) := do
  let (form, bytes) ← sections.reverse.findSome? privateKey?
  PrivateKey.publicKeyIn? bytes form

/-- Whether sections make up an identity: the public key that is certified is the one that is owned. -/
def canIdentify (sections : List Section) : Bool :=
  sections.all (·.kind ≠ .other) && (certified? sections).isSome && certified? sections = owned? sections

/-- The sections of a file that was read. -/
def sectionsOf (bytes : Option ByteArray) : Except StoreError (Option (List Section)) :=
  match bytes with
  | none => .ok none
  | some bytes =>
    match sections? bytes with
    | none => .error .credentials
    | some sections => .ok (some sections)

/-- Reads the credentials that settings name and checks that they can be used. -/
def check (files : Files) (t : TlsSettings) : Except StoreError Unit := do
  let authorities ← sectionsOf (← (t.readCa files).mapError .settings)
  let identity ← sectionsOf (← (t.readIdentity files).mapError .settings)
  if authorities.all canTrust && identity.all canIdentify then .ok () else .error .credentials

end ConfigMigration.Credentials

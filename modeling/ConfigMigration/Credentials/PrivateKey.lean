import ConfigMigration.Credentials.CurveKey
import ConfigMigration.Credentials.RsaKey
import ConfigMigration.Credentials.Section

/-!
# Private keys

A private key can be used if its public key can be told.  In the general form the name of the algorithm tells how to
read it.
-/

namespace ConfigMigration

/-- A private key in the general form. -/
structure PrivateKey where
  /-- The name of the algorithm. -/
  algorithm : List UInt8
  /-- The key, in a form of its own. -/
  key : List UInt8
  /-- The public key, which keys of the second version bring with them. -/
  point : Option (List UInt8)

namespace PrivateKey

open Credentials (KeyForm)

/-- Reads a public key, which may be wrapped once more. -/
def readPoint : Der.Reader (List UInt8) := do
  if ← Der.isNext (Der.outerTag 1) then Der.within (Der.outerTag 1) (Der.bits Der.bitsTag) else Der.bits 0x81

/-- Reads a private key in the general form.  Attributes do not count. -/
def read : Der.Reader PrivateKey :=
  Der.within Der.sequenceTag do
    let version ← Der.natural
    let algorithm ← Der.element Der.sequenceTag
    let key ← Der.element Der.bytesTag
    if ← Der.isNext (Der.outerTag 0) then let _ ← Der.element (Der.outerTag 0)
    match version with
    | 0 => return ⟨algorithm, key, none⟩
    | 1 => return ⟨algorithm, key, some (← readPoint)⟩
    | _ => failure

/-- The public key of a private one, if that can be used. -/
def publicKey? (k : PrivateKey) : Option (List UInt8) :=
  if k.algorithm = PublicKey.edwards then Edwards.publicKey? k.key k.point
  else if k.point.isSome then none
  else if k.algorithm = PublicKey.rsa then RsaKey.publicKey? k.key
  else
    (KeyCurve.all.find? fun c => k.algorithm = PublicKey.onCurve c.name).bind (·.publicKey? k.key)

/-- The public key of the private one that bytes hold in a form, if that can be used. -/
def publicKeyIn? (bytes : List UInt8) : KeyForm → Option (List UInt8)
  | .general => (Der.readAll? read bytes).bind publicKey?
  | .rsa => RsaKey.publicKey? bytes
  | .curve => KeyCurve.all.findSome? (·.publicKey? bytes)

end PrivateKey

end ConfigMigration

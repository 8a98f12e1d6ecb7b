import ConfigMigration.Credentials.PublicKey
import ConfigMigration.Curve.Edwards
import ConfigMigration.Curve.Weierstrass
import ConfigMigration.Digest.Sha512

/-!
# Keys on curves

A private key is a number, and its public key a multiple of the base of the curve.  A key on a Weierstrass curve
brings its public key with it; on the Edwards curve the number is made of a seed.
-/

namespace ConfigMigration

/-- A Weierstrass curve with the name under which keys refer to it. -/
structure KeyCurve where
  /-- The name. -/
  name : List UInt8
  /-- The curve. -/
  curve : WeierstrassCurve

namespace KeyCurve

/-- The curve of 256 bits. -/
def p256 : KeyCurve := ⟨[0x06, 0x08, 0x2A, 0x86, 0x48, 0xCE, 0x3D, 0x03, 0x01, 0x07], .p256⟩

/-- The curve of 384 bits. -/
def p384 : KeyCurve := ⟨[0x06, 0x05, 0x2B, 0x81, 0x04, 0x00, 0x22], .p384⟩

/-- The curves that can be used. -/
def all : List KeyCurve := [p256, p384]

/-- The point of a private key: a mark and two numbers of the field. -/
def pointOf? (c : KeyCurve) (key : List UInt8) : Option (List UInt8) := do
  let n := Der.number key
  if key.length = c.curve.width ∧ 0 < n ∧ n < c.curve.order then
    let (x, y) ← c.curve.multiple n
    return 4 :: Der.bytesOf c.curve.width x ++ Der.bytesOf c.curve.width y
  else none

/-- Reads a private key, of which the curve may be named, and its point. -/
def read (c : KeyCurve) : Der.Reader (List UInt8 × List UInt8) :=
  Der.within Der.sequenceTag do
    let version ← Der.natural
    let key ← Der.element Der.bytesTag
    let name ← if ← Der.isNext (Der.outerTag 0) then Der.element (Der.outerTag 0) else pure c.name
    let point ← Der.within (Der.outerTag 1) (Der.bits Der.bitsTag)
    if version = 1 ∧ name = c.name then return (key, point) else failure

/-- The public key of the private one that bytes hold, if that can be used. -/
def publicKey? (c : KeyCurve) (bytes : List UInt8) : Option (List UInt8) := do
  let (key, point) ← Der.readAll? c.read bytes
  if c.pointOf? key = some point then return PublicKey.encode (PublicKey.onCurve c.name) point else none

end KeyCurve

namespace Edwards

/-- The number of bytes of which the last one counts most. -/
def numberOf (bytes : List UInt8) : Nat := Der.number bytes.reverse

/-- The number of a seed: half of its digest, without the three lowest bits and with the highest
one but one as the first. -/
def scalarOf (seed : List UInt8) : Nat :=
  let n := numberOf ((Sha512.digest seed).take 32) % Nat.pow 2 254
  Nat.pow 2 254 + (n - n % 8)

/-- The bytes of a point: one of its numbers, and a bit of the other one. -/
def encodePoint (a : Nat × Nat) : List UInt8 :=
  (Der.bytesOf 32 (a.2 + a.1 % 2 * Nat.pow 2 255)).reverse

/-- The point of a seed. -/
def pointOf (seed : List UInt8) : List UInt8 :=
  encodePoint (multiple (scalarOf seed))

/-- The public key of the seed that bytes hold.  If a point comes with it, it must be the one of the seed. -/
def publicKey? (bytes : List UInt8) (point : Option (List UInt8)) : Option (List UInt8) := do
  let seed ← Der.readAll? (Der.element Der.bytesTag) bytes
  if seed.length = 32 ∧ point.all (· = pointOf seed) then
    return PublicKey.encode PublicKey.edwards (pointOf seed)
  else none

end Edwards

end ConfigMigration

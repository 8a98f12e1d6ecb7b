import ConfigMigration.Der

/-!
# Public keys

A public key is written with the name of its algorithm in front of it, so that keys of two algorithms never look the
same.
-/

namespace ConfigMigration.PublicKey

/-- The name of the algorithm of RSA keys. -/
def rsa : List UInt8 := [0x06, 0x09, 0x2A, 0x86, 0x48, 0x86, 0xF7, 0x0D, 0x01, 0x01, 0x01, 0x05, 0x00]

/-- The name of the algorithm of keys on a Weierstrass curve with a name. -/
def onCurve (curve : List UInt8) : List UInt8 :=
  [0x06, 0x07, 0x2A, 0x86, 0x48, 0xCE, 0x3D, 0x02, 0x01] ++ curve

/-- The name of the algorithm of keys on the Edwards curve. -/
def edwards : List UInt8 := [0x06, 0x03, 0x2B, 0x65, 0x70]

/-- The public key with the name of its algorithm. -/
def encode (algorithm key : List UInt8) : List UInt8 :=
  Der.encode Der.sequenceTag algorithm ++ Der.encodeBits key

end ConfigMigration.PublicKey

import ConfigMigration.Credentials.PublicKey

/-!
# RSA keys

A private RSA key holds more numbers than it needs, so that they can be checked against each other.
-/

namespace ConfigMigration

/-- A private RSA key. -/
structure RsaKey where
  /-- The modulus. -/
  modulus : Nat
  /-- The public exponent. -/
  publicExponent : Nat
  /-- The private exponent. -/
  privateExponent : Nat
  /-- The first prime. -/
  p : Nat
  /-- The second prime. -/
  q : Nat
  /-- The private exponent for the first prime. -/
  exponentP : Nat
  /-- The private exponent for the second prime. -/
  exponentQ : Nat
  /-- The inverse of the second prime for the first one. -/
  coefficient : Nat

namespace RsaKey

open Der (bitLength)

/-- Reads a key, in front of which the number of the version stands. -/
def read : Der.Reader RsaKey :=
  Der.within Der.sequenceTag do
    let version ← Der.natural
    let key := RsaKey.mk (← Der.natural) (← Der.natural) (← Der.natural) (← Der.natural) (← Der.natural)
      (← Der.natural) (← Der.natural) (← Der.natural)
    if version = 0 then return key else failure

/-- How many bits a prime of the key has. -/
def primeLength (k : RsaKey) : Nat := (bitLength k.modulus + 1) / 2

/-- Whether the public half of a key can be used: the modulus has from 256 to 512 bytes, and the exponent has from 17
to 33 bits. -/
def isPublicUsable (k : RsaKey) : Bool :=
  let size := (bitLength k.modulus + 7) / 8
  256 ≤ size && size ≤ 512 && k.publicExponent % 2 = 1 && 0x10001 ≤ k.publicExponent &&
    k.publicExponent < 0x200000000

/-- Whether a number may be one of the two primes, with an exponent. -/
def isPrimeUsable (k : RsaKey) (prime exponent : Nat) : Bool :=
  prime % 2 = 1 && bitLength prime = k.primeLength && k.primeLength % 512 = 0 && exponent % 2 = 1 && exponent < prime

/-- Whether a key can be used: its numbers belong together as far as that can be seen with little effort. -/
def isUsable (k : RsaKey) : Bool :=
  k.isPublicUsable && k.isPrimeUsable k.p k.exponentP && k.isPrimeUsable k.q k.exponentQ &&
    k.p * k.q % k.modulus = 0 && k.privateExponent % 2 = 1 && k.primeLength < bitLength k.privateExponent &&
    k.privateExponent < k.modulus && k.coefficient < k.p && k.coefficient * k.q % k.p = 1

/-- The public key of a private one. -/
def publicKey (k : RsaKey) : List UInt8 :=
  PublicKey.encode PublicKey.rsa
    (Der.encode Der.sequenceTag (Der.encodeNatural k.modulus ++ Der.encodeNatural k.publicExponent))

/-- The public key of the private one that bytes hold, if that can be used. -/
def publicKey? (bytes : List UInt8) : Option (List UInt8) :=
  ((Der.readAll? read bytes).filter isUsable).map publicKey

end RsaKey

end ConfigMigration

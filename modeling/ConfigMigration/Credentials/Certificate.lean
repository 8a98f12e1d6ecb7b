import ConfigMigration.Der

/-!
# Certificates

A certificate is a body and a signature over it.  The body names the algorithm of the signature once more, and what it
certifies: a public key.  Extensions follow; one that is critical has to be known to those who use the certificate,
unless they trust it anyway.
-/

namespace ConfigMigration

/-- An extension of a certificate. -/
structure CertificateExtension where
  /-- The name of its kind. -/
  name : List UInt8
  /-- Whether the certificate can only be used by those who know it. -/
  isCritical : Bool
  /-- Its value. -/
  value : List UInt8
deriving DecidableEq, Repr

namespace CertificateExtension

/-- The name of the extension that tells how a key is used. -/
def keyUsage : List UInt8 := [0x55, 0x1D, 15]

/-- The names of the known extensions: how a key is used, alternative names, basic constraints, constraints of names,
where revoked certificates are listed, and further uses of a key. -/
def knownNames : List (List UInt8) :=
  [keyUsage, [0x55, 0x1D, 17], [0x55, 0x1D, 19], [0x55, 0x1D, 30], [0x55, 0x1D, 31], [0x55, 0x1D, 37]]

/-- Reads an extension. -/
def read : Der.Reader CertificateExtension := do
  let name ← Der.element Der.nameTag
  let isCritical ← if ← Der.isNext Der.booleanTag then Der.boolean else pure false
  return ⟨name, isCritical, ← Der.element Der.bytesTag⟩

/-- Whether the value of an extension fits its name: that of a known one is a sequence,
apart from the use of a key. -/
def isWellFormed (e : CertificateExtension) : Bool :=
  e.name = keyUsage || e.name ∉ knownNames || (Der.readAll? (Der.element Der.sequenceTag) e.value).isSome

/-- Whether extensions may stand together in a certificate: each known one stands there once at most. -/
def areWellFormed (es : List CertificateExtension) : Bool :=
  es.all isWellFormed && knownNames.all fun name => es.countP (·.name = name) < 2

/-- Whether all that matters about an extension is known. -/
def isUnderstood (e : CertificateExtension) : Bool :=
  e.name ∈ knownNames || !e.isCritical

end CertificateExtension

/-- A certificate. -/
structure Certificate where
  /-- The public key, with the name of its algorithm. -/
  publicKey : List UInt8
  /-- The extensions. -/
  extensions : List CertificateExtension
deriving DecidableEq, Repr

namespace Certificate

/-- Reads what is signed, and the name of the algorithm of the signature. -/
def readSigned : Der.Reader (List UInt8 × List UInt8) :=
  Der.within Der.sequenceTag do
    let body ← Der.element Der.sequenceTag
    let algorithm ← Der.element Der.sequenceTag
    let _ ← Der.bits Der.bitsTag
    return (body, algorithm)

/-- Reads what comes between the name of the algorithm and the extensions: the issuer, the time of validity, the
subject, and the public key. -/
def readPublicKey : Der.Reader (List UInt8) := do
  let _ ← Der.element Der.sequenceTag
  let _ ← Der.element Der.sequenceTag
  let _ ← Der.element Der.sequenceTag
  Der.element Der.sequenceTag

/-- Reads the body of a certificate of the third version. -/
def readBody (algorithm : List UInt8) : Der.Reader Certificate := do
  let version ← Der.within (Der.outerTag 0) (Der.element Der.integerTag)
  let _ ← Der.element Der.integerTag
  let innerAlgorithm ← Der.element Der.sequenceTag
  let publicKey ← readPublicKey
  let extensions ←
    if ← Der.isEnd then pure []
    else Der.within (Der.outerTag 3) (Der.within Der.sequenceTag (Der.many Der.sequenceTag CertificateExtension.read))
  if version = [2] ∧ innerAlgorithm = algorithm ∧ CertificateExtension.areWellFormed extensions then
    return ⟨publicKey, extensions⟩
  else failure

/-- Reads the body of a certificate of the first version. -/
def readFirstBody : Der.Reader Certificate := do
  let _ ← Der.element Der.integerTag
  let _ ← Der.element Der.sequenceTag
  return ⟨← readPublicKey, []⟩

/-- The certificate that bytes hold, if it is of the third version and each of its extensions is understood. -/
def parse? (bytes : List UInt8) : Option Certificate := do
  let (body, algorithm) ← Der.readAll? readSigned bytes
  (Der.readAll? (readBody algorithm) body).filter (·.extensions.all (·.isUnderstood))

/-- The certificate of an authority that bytes hold.  It may be of the first version, and need not be understood. -/
def parseAuthority? (bytes : List UInt8) : Option Certificate := do
  let (body, algorithm) ← Der.readAll? readSigned bytes
  Der.readAll? (readBody algorithm) body <|> Der.readAll? readFirstBody body

end Certificate

end ConfigMigration

import ConfigMigration.Text.Base64

/-!
# Sections of credentials

A file with credentials holds sections of base 64 between a line that begins them and a line that ends them, both
with the label of the section.  What stands outside of sections does not count, and neither do sections under a label
that nobody knows.
-/

namespace ConfigMigration.Credentials

/-- The forms of private keys. -/
inductive KeyForm where
  /-- A key of any kind, with the name of its kind. -/
  | general
  /-- An RSA key. -/
  | rsa
  /-- A key on an elliptic curve. -/
  | curve
deriving DecidableEq, Repr

/-- What a section holds. -/
inductive SectionKind where
  /-- A certificate. -/
  | certificate
  /-- A private key. -/
  | privateKey (form : KeyForm)
  /-- Something else that belongs to credentials. -/
  | other
deriving DecidableEq, Repr

/-- The kind of the sections under a label, if it is known. -/
def SectionKind.ofLabel? (label : String) : Option SectionKind :=
  if label = "CERTIFICATE" then some certificate
  else if label = "PRIVATE KEY" then some (privateKey .general)
  else if label = "RSA PRIVATE KEY" then some (privateKey .rsa)
  else if label = "EC PRIVATE KEY" then some (privateKey .curve)
  else if label ∈ ["PUBLIC KEY", "X509 CRL", "CERTIFICATE REQUEST", "ECHCONFIG"] then some other
  else none

/-- A section. -/
structure Section where
  /-- What it holds. -/
  kind : SectionKind
  /-- Its bytes. -/
  bytes : List UInt8
deriving Repr

/-! ### Base 64 -/

/-- Blanks, which may stand between the characters of base 64. -/
def isBlank (c : Char) : Bool := c = ' ' || ('\t' ≤ c && c ≤ '\r')

/-- The first bytes of a group that misses characters at its end. -/
def decodePart (count : Nat) (a b c : Char) : Option (List UInt8) :=
  (Base64.decodeGroup a b c 'A').map (·.take count)

/-- The bytes of base 64.  The equals signs that fill up the last group may be missing, and the bits that go beyond
the last byte do not count. -/
def decodeLoosely : List Char → Option (List UInt8)
  | [] => some []
  | [a, b] | [a, b, '=', '='] => decodePart 1 a b 'A'
  | [a, b, c] | [a, b, c, '='] => decodePart 2 a b c
  | a :: b :: c :: d :: rest => do return (← Base64.decodeGroup a b c d) ++ (← decodeLoosely rest)
  | _ => none

/-! ### Lines -/

/-- The lines of a text. -/
def lines (text : List Char) : List (List Char) :=
  text.splitOnP fun c => c = '\n' || c = '\r'

/-- How the line begins that begins a section. -/
def beginMark : List Char := "-----BEGIN ".toList

/-- The label of the section that a line begins, which stands in front of five hyphens.  Spaces between and behind the
hyphens do not count. -/
def label? (line : List Char) : Option (List Char) :=
  let rest := line.drop beginMark.length
  let isTail (c : Char) : Bool := c = '-' || c = ' '
  let label := (rest.reverse.dropWhile isTail).reverse
  let tail := rest.drop label.length
  if tail.count '-' = 5 then some (label ++ tail.takeWhile (· = ' ')) else none

/-- How the line begins that ends the section under a label. -/
def endMark (label : List Char) : List Char :=
  "-----END ".toList ++ label ++ "-----".toList

/-- The section of a label and its base 64.  A section under an unknown label is left out. -/
def section? (label symbols : List Char) : Option (List Section) :=
  match SectionKind.ofLabel? (String.ofList label) with
  | none => some []
  | some kind => (decodeLoosely (symbols.filter (!isBlank ·))).map fun bytes => [⟨kind, bytes⟩]

/-- The sections of lines.  `label` is the one of the open section and `symbols` its base 64 so far, which a line that
begins another section leaves as it is. -/
def readLines (label : Option (List Char)) (symbols : List Char) : List (List Char) → Option (List Section)
  | [] => if label.isSome then none else some []
  | line :: rest =>
    if beginMark.isPrefixOf line then do readLines (some (← label? line)) symbols rest
    else
      match label with
      | none => readLines none symbols rest
      | some name =>
        if (endMark name).isPrefixOf line then do
          let here ← section? name symbols
          return here ++ (← readLines none [] rest)
        else readLines label (symbols ++ line) rest

/-- The sections of a file. -/
def sections? (bytes : ByteArray) : Option (List Section) :=
  readLines none [] (lines (bytes.toList.map fun b => Char.ofNat b.toNat))

end ConfigMigration.Credentials

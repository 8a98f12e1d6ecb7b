import ConfigMigration.Text.Blank
import ConfigMigration.Text.Digit

/-!
# Signs of patterns

A pattern is a text that describes texts.  Its smallest parts are signs: characters that stand for themselves, and
escapes, which begin with a backslash.
-/

namespace ConfigMigration.Pattern

/-- How a stretch of a pattern is read. -/
structure Mode where
  /-- Whether blanks and comments do not count. -/
  isSpaced : Bool := false
  /-- Whether all characters are known, and not only those of ASCII. -/
  isWide : Bool := true
deriving DecidableEq, Repr

/-- What a sign describes. -/
inductive Sign where
  /-- A character, which may have been given by the two digits of a byte. -/
  | character (c : Char) (isByte : Bool)
  /-- A kind of characters, or the characters of all other kinds. -/
  | kind (isNegated : Bool)
  /-- The characters with a property. -/
  | property
  /-- Any character but the end of a line. -/
  | anything
  /-- An end of a text or of a line. -/
  | border
  /-- An edge of a word, or a place that is none. -/
  | wordEdge
deriving DecidableEq, Repr

/-- Leaves out blanks and comments at the front of a text.
A comment goes from a number sign to the end of the line. -/
def dropSpace (isComment : Bool) : List Char → List Char
  | [] => []
  | c :: rest =>
    if isComment then dropSpace (c ≠ '\n') rest
    else if Text.isBlank c then dropSpace false rest
    else if c = '#' then dropSpace true rest
    else c :: rest

/-- Leaves out what does not count at the front of a text. -/
def Mode.skip (m : Mode) (text : List Char) : List Char :=
  if m.isSpaced then dropSpace false text else text

namespace Sign

/-- The number of `n` more hexadecimal digits. -/
def hexDigits? (m : Mode) : Nat → Nat → List Char → Option (Nat × List Char)
  | 0, value, text => some (value, text)
  | _, _, [] => none
  | n + 1, value, c :: rest => do hexDigits? m n (value * 16 + (← Text.digit? 16 c)) (m.skip rest)

/-- A character that is given by its hexadecimal digits. -/
def hex? (m : Mode) (digits : Nat) (text : List Char) : Option (Sign × List Char) := do
  let (n, rest) ← hexDigits? m digits 0 (m.skip text)
  if n.isValidChar then some (character (Char.ofNat n) (digits = 2), rest) else none

/-- A property that is given by one letter. -/
def property? (m : Mode) (text : List Char) : Option (Sign × List Char) :=
  match m.skip text with
  | [] => none
  | c :: rest => if c.toLower ∈ ['c', 'l', 'm', 'n', 'p', 's', 'z'] then some (property, rest) else none

/-- The control characters that have a letter of their own. -/
def controls : List (Char × Char) :=
  [('a', '\x07'), ('f', '\x0c'), ('t', '\t'), ('n', '\n'), ('r', '\r'), ('v', '\x0b')]

/-- The escape at the front of a text that begins behind a backslash. -/
def escape? (m : Mode) : List Char → Option (Sign × List Char)
  | [] => none
  | c :: rest =>
    if c = 'x' then hex? m 2 rest
    else if c = 'u' then hex? m 4 rest
    else if c = 'U' then hex? m 8 rest
    else if c = 'p' ∨ c = 'P' then property? m rest
    else if c ∈ ['d', 's', 'w'] then some (kind false, rest)
    else if c ∈ ['D', 'S', 'W'] then some (kind true, rest)
    else if c ∈ ['A', 'z'] then some (border, rest)
    else if c ∈ ['b', 'B', '<', '>'] then some (wordEdge, rest)
    else if c.toNat < 0x80 ∧ !c.isAlphanum then some (character c false, rest)
    else (controls.lookup c).map fun control => (character control false, rest)

/-- The sign at the front of a text. -/
def read? (m : Mode) : List Char → Option (Sign × List Char)
  | [] => none
  | '\\' :: rest => escape? m rest
  | '.' :: rest => some (anything, rest)
  | '^' :: rest | '$' :: rest => some (border, rest)
  | c :: rest => some (character c false, rest)

/-- The sign of a set at the front of a text. -/
def readInSet? (m : Mode) : List Char → Option (Sign × List Char)
  | [] => none
  | '\\' :: rest => escape? m rest
  | c :: rest => some (character c false, rest)

/-- Whether a sign can be matched.  Where only ASCII is known it must not describe anything else, and elsewhere there
are no edges of words. -/
def isAllowed (m : Mode) : Sign → Bool
  | character c isByte => m.isWide || !isByte || c.toNat < 0x80
  | kind isNegated => m.isWide || !isNegated
  | property | anything => m.isWide
  | border => true
  | wordEdge => !m.isWide

/-- Whether a sign can be a member of a set. -/
def isAllowedInSet (m : Mode) : Sign → Bool
  | character c _ => m.isWide || c.toNat < 0x80
  | kind isNegated => m.isWide || !isNegated
  | property => m.isWide
  | anything | border | wordEdge => false

end Sign

end ConfigMigration.Pattern

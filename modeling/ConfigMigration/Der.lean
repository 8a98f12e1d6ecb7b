/-!
# Distinguished encoding

A value is encoded as an element: a tag, the length of its content, and the content, which may hold further elements.
Each length is written in the shortest way, so that a value has one encoding.
-/

namespace ConfigMigration.Der

/-! ### Numbers -/

/-- The number that bytes write, of which the first one counts most. -/
def number (bytes : List UInt8) : Nat :=
  bytes.foldl (fun n b => n * 256 + b.toNat) 0

/-- The last bytes of a number. -/
def bytesOf : Nat → Nat → List UInt8
  | 0, _ => []
  | count + 1, n => bytesOf count (n / 256) ++ [n.toUInt8]

/-- How many bits a number has. -/
def bitLength (n : Nat) : Nat := if n = 0 then 0 else n.log2 + 1

/-! ### Tags -/

/-- The tag of a truth value. -/
def booleanTag : UInt8 := 0x01

/-- The tag of an integer. -/
def integerTag : UInt8 := 0x02

/-- The tag of a string of bits. -/
def bitsTag : UInt8 := 0x03

/-- The tag of a string of bytes. -/
def bytesTag : UInt8 := 0x04

/-- The tag of the name of a kind of things. -/
def nameTag : UInt8 := 0x06

/-- The tag of a sequence of elements. -/
def sequenceTag : UInt8 := 0x30

/-- The tag of an optional element that holds another one. -/
def outerTag (n : UInt8) : UInt8 := 0xA0 + n

/-! ### Writing -/

/-- The length of a content. -/
def encodeLength (n : Nat) : List UInt8 :=
  if n < 0x80 then [n.toUInt8] else if n < 0x100 then [0x81, n.toUInt8] else 0x82 :: bytesOf 2 n

/-- An element. -/
def encode (tag : UInt8) (content : List UInt8) : List UInt8 :=
  tag :: encodeLength content.length ++ content

/-- A natural number, in front of which a bit for the sign stands. -/
def encodeNatural (n : Nat) : List UInt8 :=
  encode integerTag (bytesOf (bitLength n / 8 + 1) n)

/-- A string of bits that fills up its bytes. -/
def encodeBits (bytes : List UInt8) : List UInt8 :=
  encode bitsTag (0 :: bytes)

/-! ### Reading -/

/-- What reads a value at the front of bytes and leaves the rest. -/
abbrev Reader := StateT (List UInt8) Option

variable {α : Type}

/-- Reads a byte. -/
def byte : Reader UInt8
  | [] => none
  | b :: rest => some (b, rest)

/-- Reads a number of bytes. -/
def take (count : Nat) : Reader (List UInt8) := fun bytes =>
  if bytes.length < count then none else some (bytes.take count, bytes.drop count)

/-- The bound of all lengths. -/
def lengthBound : Nat := 0xFFFF

/-- Reads a length. -/
def length : Reader Nat := do
  let first ← byte
  if first < 0x80 then return first.toNat
  let count := first.toNat - 0x80
  let n := number (← take count)
  if ((count = 1 ∧ 0x80 ≤ n) ∨ (count = 2 ∧ 0x100 ≤ n)) ∧ n < lengthBound then return n else failure

/-- Reads an element with a tag: its content. -/
def element (tag : UInt8) : Reader (List UInt8) := do
  if (← byte) = tag then take (← length) else failure

/-- What is read of bytes if nothing is left. -/
def readAll? (r : Reader α) (bytes : List UInt8) : Option α :=
  match r bytes with
  | some (a, []) => some a
  | _ => none

/-- Reads the content of an element with a tag. -/
def within (tag : UInt8) (r : Reader α) : Reader α := do
  StateT.lift (readAll? r (← element tag))

/-- Whether an element with a tag comes next. -/
def isNext (tag : UInt8) : Reader Bool := fun bytes =>
  some (bytes.head? = some tag, bytes)

/-- Whether nothing is left. -/
def isEnd : Reader Bool := fun bytes =>
  some (bytes.isEmpty, bytes)

/-- Reads elements with a tag, each with the same reader, to the end.  `fuel` bounds the number of bytes. -/
def manyUpTo (tag : UInt8) (r : Reader α) : Nat → Reader (List α)
  | 0 => return []
  | fuel + 1 => do
    if ← isEnd then return []
    let a ← within tag r
    return a :: (← manyUpTo tag r fuel)

/-- Reads elements with a tag to the end. -/
def many (tag : UInt8) (r : Reader α) : Reader (List α) := fun bytes =>
  manyUpTo tag r bytes.length bytes

/-- Reads a string of bits that fills up its bytes. -/
def bits (tag : UInt8) : Reader (List UInt8) := do
  match ← element tag with
  | 0 :: bytes => return bytes
  | _ => failure

/-- Reads a truth value. -/
def boolean : Reader Bool := do
  match ← element booleanTag with
  | [0x00] => return false
  | [0xFF] => return true
  | _ => failure

/-- The natural number of a content. -/
def natural? : List UInt8 → Option Nat
  | [] => none
  | [b] => if b < 0x80 then some b.toNat else none
  | a :: b :: rest => if a < 0x80 ∧ (a ≠ 0 ∨ 0x80 ≤ b) then some (number (a :: b :: rest)) else none

/-- Reads a natural number. -/
def natural : Reader Nat := do
  StateT.lift (natural? (← element integerTag))

end ConfigMigration.Der

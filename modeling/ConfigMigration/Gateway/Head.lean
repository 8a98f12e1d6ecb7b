import ConfigMigration.Text.Digit

/-!
# Heads of answers

On a connection an answer begins with a head: a line with its status, lines with fields, and an empty line.  The
fields tell how long the text behind the head is.
-/

namespace ConfigMigration

/-- The head of an answer. -/
structure AnswerHead where
  /-- Whether it is in the older version of the protocol. -/
  isOld : Bool
  /-- The status. -/
  status : Nat
  /-- The fields, by their names in lower case. -/
  fields : List (String × List Char)
deriving DecidableEq, Repr

/-- How the end of the text behind a head is found. -/
inductive Extent where
  /-- There is no text. -/
  | none
  /-- The text has a number of bytes. -/
  | bytes (count : Nat)
  /-- The text comes in pieces. -/
  | pieces
  /-- The text goes on until the connection is closed. -/
  | untilClosed
deriving DecidableEq, Repr

namespace AnswerHead

/-! ### Lines -/

/-- The rest of a text behind the end of a line at its front. -/
def endOfLine? : List Char → Option (List Char)
  | '\r' :: '\n' :: rest => some rest
  | '\n' :: rest => some rest
  | _ => none

/-- The rest of a text behind the empty lines at its front. -/
def skipEmptyLines : List Char → List Char
  | '\r' :: '\n' :: rest => skipEmptyLines rest
  | '\n' :: rest => skipEmptyLines rest
  | text => text

/-- The blanks inside a line. -/
def isGap (c : Char) : Bool := c = ' ' || c = '\t'

/-- Whether a character may stand in a line: the controls may not, apart from the tab. -/
def isVisible (c : Char) : Bool := c = '\t' || (' ' ≤ c && c ≠ '\x7f')

/-- Whether a character may stand in the name of a field. -/
def isNameChar (c : Char) : Bool :=
  c.isAlphanum || c ∈ ['!', '#', '$', '%', '&', '\x27', '*', '+', '-', '.', '^', '_', '\x60', '|', '~']

/-- A text without the blanks at its two ends. -/
def trimGaps (text : List Char) : List Char :=
  ((text.dropWhile isGap).reverse.dropWhile isGap).reverse

/-- The line at the front of a text, and the rest. -/
def line? (text : List Char) : Option (List Char × List Char) :=
  let line := text.takeWhile isVisible
  (endOfLine? (text.drop line.length)).map fun rest => (line, rest)

/-! ### Heads -/

/-- The version and the status at the front of a text, and the rest behind the line. -/
def statusLine? (text : List Char) : Option (Bool × Nat × List Char) := do
  let mark := "HTTP/1.".toList
  guard (mark.isPrefixOf text)
  match text.drop mark.length with
  | version :: ' ' :: a :: b :: c :: rest =>
    guard ((version = '0' || version = '1') && [a, b, c].all Char.isDigit)
    let status ← Text.number? 10 [a, b, c]
    guard (100 ≤ status)
    match rest with
    | ' ' :: reason => return (version = '0', status, (← line? reason).2)
    | rest => return (version = '0', status, ← endOfLine? rest)
  | _ => none

/-- The field at the front of a text, and the rest. -/
def field? (text : List Char) : Option ((String × List Char) × List Char) :=
  let name := text.takeWhile isNameChar
  match text.drop name.length with
  | ':' :: rest => do
    guard (!name.isEmpty)
    let (value, rest) ← line? rest
    return ((String.ofList (name.map Char.toLower), trimGaps value), rest)
  | _ => none

/-- The fields at the front of a text and the rest behind the empty line that ends them, if there are not more fields
than are allowed. -/
def fields? (allowed : Nat) (text : List Char) : Option (List (String × List Char) × List Char) :=
  match endOfLine? text, allowed with
  | some rest, _ => some ([], rest)
  | none, 0 => none
  | none, allowed + 1 => do
    let (field, rest) ← field? text
    let (fields, rest) ← fields? allowed rest
    return (field :: fields, rest)

/-- How many fields a head may have. -/
def fieldLimit : Nat := 100

/-- The head at the front of a text, and the rest. -/
def read? (text : List Char) : Option (AnswerHead × List Char) := do
  let (isOld, status, rest) ← statusLine? (skipEmptyLines text)
  let (fields, rest) ← fields? fieldLimit rest
  return (⟨isOld, status, fields⟩, rest)

/-- Whether another head follows before the answer begins. -/
def isInterim (status : Nat) : Bool :=
  100 ≤ status && status < 200 && status ≠ 101

/-- The first head at the front of a text that is not followed by another one, and the rest.  `fuel` bounds the number
of characters. -/
def readLast? : Nat → List Char → Option (AnswerHead × List Char)
  | 0, _ => none
  | fuel + 1, text => do
    let (head, rest) ← read? text
    if isInterim head.status then readLast? fuel rest else return (head, rest)

/-! ### The text behind a head -/

/-- The values of the fields under a name. -/
def valuesOf (h : AnswerHead) (name : String) : List (List Char) :=
  (h.fields.filter (·.1 = name)).map (·.2)

/-- The items of a value. -/
def items (value : List Char) : List (List Char) :=
  (value.splitOnP (· = ',')).map trimGaps

/-- Whether an answer with a status has no text, whatever its fields say. -/
def isTextless (status : Nat) : Bool :=
  status ∈ [101, 204, 304]

/-- The number of bytes that lengths agree on. -/
def lengthOf? (values : List (List Char)) : Option Nat := do
  let lengths ← (values.flatMap items).mapM fun digits =>
    if digits.isEmpty then none else Text.number? 10 digits
  let count ← lengths.head?
  guard (lengths.all (· = count) && count < UInt64.size - 2)
  return count

/-- Whether the last coding that a value names is the one in pieces. -/
def isInPieces (value : List Char) : Bool :=
  value.all (·.toNat < 0x80) && (items value).getLast?.any fun coding => (String.ofList coding).toLower = "chunked"

/-- How the end of the text behind a head is found.  A head that contradicts itself has none. -/
def extent? (h : AnswerHead) : Option Extent :=
  if isTextless h.status then some .none
  else
    match (h.valuesOf "transfer-encoding").getLast?, h.valuesOf "content-length" with
    | some coding, _ => if h.isOld then none else some (if isInPieces coding then .pieces else .untilClosed)
    | none, [] => some .untilClosed
    | none, lengths => (lengthOf? lengths).map .bytes

end AnswerHead

end ConfigMigration

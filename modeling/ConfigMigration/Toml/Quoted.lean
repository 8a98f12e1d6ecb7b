import ConfigMigration.Toml.Reader

/-!
# Strings and keys of TOML

A string stands between double quotes, where a backslash begins an escape, or between single quotes, where it does
not.  With three quotes on either side it may go over several lines.
-/

namespace ConfigMigration.Toml

open Reader

/-! ### Characters -/

/-- Spaces and tabs. -/
def isBlank (c : Char) : Bool := c = ' ' || c = '\t'

/-- The characters that may stand in a comment or a string: all but the control characters,
of which only the tab may. -/
def isPlain (c : Char) : Bool := c = '\t' || (' ' ≤ c && c ≠ '\x7f')

/-- The characters of a key without quotes. -/
def isBare (c : Char) : Bool := c.isAlphanum || c = '-' || c = '_'

/-- The value of a digit in bases up to sixteen. -/
def digitValue (c : Char) : Nat :=
  if c.isDigit then c.toNat - '0'.toNat else c.toLower.toNat - 'a'.toNat + 10

/-- Whether a character is a digit of a base up to sixteen. -/
def isDigitOf (base : Nat) (c : Char) : Bool :=
  (c.isDigit || ('a' ≤ c.toLower && c.toLower ≤ 'f')) && digitValue c < base

/-- The number that digits spell. -/
def numberOf (base : Nat) (digits : List Char) : Nat :=
  digits.foldl (fun n c => n * base + digitValue c) 0

/-! ### Space -/

/-- Takes spaces and tabs. -/
def blanks : Reader Unit := discard (run isBlank)

/-- Takes the end of a line. -/
def newline : Reader Unit := char '\n' <|> word "\r\n"

/-- Takes a comment up to the end of its line. -/
def comment : Reader Unit := do
  char '#'
  discard (run isPlain)

/-- Takes what may stand behind something that needs the rest of its line, and the end of the line. -/
def lineEnd : Reader Unit := do
  blanks
  discard (optional comment)
  newline <|> ending

/-- Takes space, line ends and comments. -/
def gaps : Reader Unit :=
  discard (many (discard (run1 isBlank) <|> newline <|> (comment *> newline)))

/-! ### Strings -/

/-- A way to quote. -/
structure Quotes where
  /-- The quotation mark. -/
  mark : Char
  /-- Whether a backslash begins an escape. -/
  escapes : Bool

namespace Quotes

/-- Double quotes. -/
def double : Quotes := ⟨'"', true⟩

/-- Single quotes. -/
def single : Quotes := ⟨'\x27', false⟩

/-- Whether a character stands for itself. -/
def isPlain (q : Quotes) (c : Char) : Bool :=
  Toml.isPlain c && c ≠ q.mark && !(q.escapes && c = '\\')

/-- Takes the digits of a numeric escape. -/
def scalarValue (count : Nat) : Reader Char := do
  let n := numberOf 16 (← exactly (isDigitOf 16) count)
  guard n.isValidChar
  return Char.ofNat n

/-- Takes what stands behind a backslash. -/
def escaped : Reader Char := do
  match ← one fun _ => true with
  | 'b' => return '\x08'
  | 't' => return '\t'
  | 'n' => return '\n'
  | 'f' => return '\x0c'
  | 'r' => return '\r'
  | '"' => return '"'
  | '\\' => return '\\'
  | 'u' => scalarValue 4
  | 'U' => scalarValue 8
  | _ => failure

/-- Takes an escape. -/
def escape (q : Quotes) : Reader Char := do
  guard q.escapes
  char '\\'
  escaped

/-- Takes a string on one line. -/
def line (q : Quotes) : Reader String := do
  char q.mark
  let content ← many (run1 q.isPlain <|> (do return [← q.escape]))
  char q.mark
  return String.ofList content.flatten

/-- Takes a backslash at the end of a line and all space behind it, which leave nothing in the string. -/
def fold (q : Quotes) : Reader Unit := do
  guard q.escapes
  char '\\'
  blanks
  newline
  discard (many (discard (run1 isBlank) <|> newline))

/-- Takes one or two marks inside a string that goes over several lines. -/
def fewMarks (q : Quotes) : Reader (List Char) := do
  let marks ← run (· = q.mark)
  guard (0 < marks.length && marks.length < 3)
  return marks

/-- Takes a part of a string that goes over several lines. -/
def piece (q : Quotes) : Reader (List Char) :=
  run1 q.isPlain <|> (q.fold *> pure []) <|> (do return [← q.escape]) <|>
    (newline *> pure ['\n']) <|> q.fewMarks

/-- Takes the marks that close a string over several lines: three, and up to two in front that belong to it. -/
def closing (q : Quotes) : Reader (List Char) :=
  (exactly (· = q.mark) 5 <|> exactly (· = q.mark) 4 <|> exactly (· = q.mark) 3) >>= fun marks =>
    pure (marks.drop 3)

/-- Takes a string over several lines.  A line end right behind the opening marks does not count. -/
def lines (q : Quotes) : Reader String := do
  discard (exactly (· = q.mark) 3)
  discard (optional newline)
  let content ← many q.piece
  return String.ofList (content.flatten ++ (← q.closing))

/-- Takes a string.  Three marks always open a string over several lines. -/
def string (q : Quotes) : Reader String := fun text =>
  if text.take 3 = [q.mark, q.mark, q.mark] then q.lines text else q.line text

end Quotes

/-! ### Keys -/

/-- A dotted key. -/
structure Key where
  /-- The names in front of the last one. -/
  path : List String
  /-- The last name. -/
  name : String
deriving DecidableEq, Repr

/-- The names of a key. -/
def Key.names (k : Key) : List String := k.path ++ [k.name]

/-- The number of tables and arrays that may lie in each other. -/
def maxDepth : Nat := 79

/-- Takes a name. -/
def name : Reader String :=
  Quotes.double.line <|> Quotes.single.line <|> String.ofList <$> run1 isBare

/-- Takes a dotted key with the space around its names. -/
def key : Reader Key := do
  let names ← separated (char '.') (blanks *> name <* blanks)
  guard (names.length ≤ maxDepth)
  match names.getLast? with
  | some last => return ⟨names.dropLast, last⟩
  | none => failure

end ConfigMigration.Toml

import ConfigMigration.Json.Fault
import ConfigMigration.Json.Numeral

/-!
# JSON tokens

A JSON text is read into tokens, one pass from left to right.  The reading stops at the first place where no token
can be completed, and the last token tells what was met there.  One step reads one character, so that the tokens
of a text are found by structural recursion.  Some rules depend on who asks: a string may hold an
escape for a surrogate without its partner, which counts only if the string is wanted, so tokens keep both answers.
-/

namespace ConfigMigration.Json

/-- A string as it is spelled. -/
inductive Spelling where
  /-- A complete string. -/
  | text (s : String)
  /-- A string with an escaped surrogate that has no partner, and the fault that a reader meets later in the string
  who does not mind. -/
  | unpaired (later : Option Fault)
  /-- A string that breaks off. -/
  | broken (fault : Fault)
deriving DecidableEq, Repr

/-- A token of JSON text. -/
inductive Token where
  /-- An opening bracket. -/
  | openArray
  /-- A closing bracket. -/
  | closeArray
  /-- An opening brace. -/
  | openObject
  /-- A closing brace. -/
  | closeObject
  /-- A comma. -/
  | comma
  /-- A colon. -/
  | colon
  /-- The word for the null value. -/
  | null
  /-- The word for a truth value. -/
  | bool (b : Bool)
  /-- A number. -/
  | number (numeral : Numeral)
  /-- A number in whose middle the text ends. -/
  | cutNumber
  /-- A string. -/
  | string (s : Spelling)
  /-- Neither of these, up to the given fault. -/
  | broken (fault : Fault)
deriving DecidableEq, Repr

/-- The space, and the line breaks and tabs. -/
def isSpace (c : Char) : Bool :=
  c = ' ' || c = '\n' || c = '\t' || c = '\r'

/-- The value of a decimal digit. -/
def digit? (c : Char) : Option Nat :=
  if c.isDigit then some (c.toNat - '0'.toNat) else none

/-- The value of a hexadecimal digit of either case. -/
def hexValue? (c : Char) : Option Nat :=
  if c.isDigit then some (c.toNat - '0'.toNat)
  else if 'a' ≤ c ∧ c ≤ 'f' then some (c.toNat - 'a'.toNat + 10)
  else if 'A' ≤ c ∧ c ≤ 'F' then some (c.toNat - 'A'.toNat + 10)
  else none

/-- The character of a one-letter escape. -/
def unescape? (c : Char) : Option Char :=
  if c = '"' || c = '\\' || c = '/' then some c
  else if c = 'b' then some '\x08'
  else if c = 'f' then some '\x0c'
  else if c = 'n' then some '\n'
  else if c = 'r' then some '\r'
  else if c = 't' then some '\t'
  else none

/-- Whether a unit is the first half of a pair of surrogates. -/
def isHighSurrogate (unit : Nat) : Bool := 0xD800 ≤ unit && unit < 0xDC00

/-- Whether a unit is the second half of a pair of surrogates. -/
def isLowSurrogate (unit : Nat) : Bool := 0xDC00 ≤ unit && unit < 0xE000

/-- The character of a pair of surrogates. -/
def joinSurrogates (high low : Nat) : Char :=
  Char.ofNat (0x10000 + (high - 0xD800) * 0x400 + (low - 0xDC00))

/-- How far a numeral has been read. -/
inductive Numeral.Stage where
  /-- Behind the minus sign. -/
  | sign
  /-- Behind a leading zero. -/
  | zero
  /-- In the digits before the point. -/
  | whole
  /-- Behind the point. -/
  | point
  /-- In the digits after the point. -/
  | fraction
  /-- Behind the mark of the exponent. -/
  | mark
  /-- Behind the sign of the exponent. -/
  | markSign
  /-- In the digits of the exponent. -/
  | exponent
deriving DecidableEq, Repr

namespace Numeral

/-- Whether a numeral may end here. -/
def Stage.isComplete : Stage → Bool
  | zero | whole | fraction | exponent => true
  | sign | point | mark | markSign => false

/-- Adds a digit to the exponent. -/
def pushExponent (numeral : Numeral) (digit : Nat) : Numeral :=
  { numeral with exponent := numeral.exponent.map fun e => (e.1, e.2 ++ [digit]) }

/-- Reads one more character of a numeral, where it belongs to the numeral. -/
def push? (stage : Stage) (numeral : Numeral) (c : Char) : Option (Stage × Numeral) :=
  match digit? c, stage with
  | some 0, .sign => some (.zero, { numeral with whole := [0] })
  | some d, .sign => some (.whole, { numeral with whole := [d] })
  | some d, .whole => some (.whole, { numeral with whole := numeral.whole ++ [d] })
  | some d, .point | some d, .fraction => some (.fraction, { numeral with fraction := numeral.fraction ++ [d] })
  | some d, .mark | some d, .markSign | some d, .exponent => some (.exponent, numeral.pushExponent d)
  | none, .zero | none, .whole =>
    if c = '.' then some (.point, numeral)
    else if c = 'e' || c = 'E' then some (.mark, { numeral with exponent := some (false, []) })
    else none
  | none, .fraction =>
    if c = 'e' || c = 'E' then some (.mark, { numeral with exponent := some (false, []) }) else none
  | none, .mark =>
    if c = '+' then some (.markSign, numeral)
    else if c = '-' then some (.markSign, { numeral with exponent := some (true, []) })
    else none
  | _, _ => none

end Numeral

/-- A string that is being read. -/
structure OpenString where
  /-- The characters read so far, the last one first. -/
  reversed : List Char := []
  /-- Whether a surrogate without a partner was met. -/
  unpaired : Bool := false
  /-- The first half of a pair of surrogates, where the second half is due. -/
  high : Option Nat := none

namespace OpenString

/-- Adds a character. -/
def push (s : OpenString) (c : Char) : OpenString :=
  { s with reversed := c :: s.reversed }

/-- Gives up a half pair of surrogates. -/
def release (s : OpenString) : OpenString :=
  if s.high.isSome then { s with high := none, unpaired := true } else s

/-- Adds the unit of a numeric escape. -/
def pushUnit (s : OpenString) (unit : Nat) : OpenString :=
  match s.high with
  | some high =>
    if isLowSurrogate unit then { s.push (joinSurrogates high unit) with high := none } else s.release
  | none =>
    if isHighSurrogate unit then { s with high := some unit }
    else if isLowSurrogate unit then { s with unpaired := true }
    else s.push (Char.ofNat unit)

/-- The token of a string that is complete, or breaks off with a fault. -/
def toToken (s : OpenString) (fault : Option Fault) : Token :=
  if s.unpaired then .string (.unpaired fault)
  else match fault with
    | none => .string (.text (String.ofList s.reversed.reverse))
    | some fault => .string (.broken fault)

end OpenString

namespace Token

/-- What the reader of tokens is in the middle of. -/
inductive State where
  /-- Between tokens. -/
  | between
  /-- In a word, with the characters still due. -/
  | word (due : List Char) (token : Token)
  /-- In a numeral. -/
  | numeral (stage : Numeral.Stage) (numeral : Numeral)
  /-- In a string. -/
  | string (s : OpenString)
  /-- In a string, behind a backslash. -/
  | escape (s : OpenString)
  /-- In a string, in the four bytes of a numeric escape: their count, and the number read where they are digits. -/
  | unit (s : OpenString) (count : Nat) (value : Option Nat)
  /-- Behind a place that no token can be read from. -/
  | stopped

/-- A token with nothing begun after it. -/
def done (token : Token) : List Token × State := ([token], .between)

/-- The last token, after which nothing is read. -/
def stop (token : Token) : List Token × State := ([token], .stopped)

/-- Reads the first character of a token. -/
def start (c : Char) : List Token × State :=
  if isSpace c then ([], .between)
  else if c = '[' then done .openArray
  else if c = ']' then done .closeArray
  else if c = '\x7b' then done .openObject
  else if c = '\x7d' then done .closeObject
  else if c = ',' then done .comma
  else if c = ':' then done .colon
  else if c = '"' then ([], .string {})
  else if c = 'n' then ([], .word ['u', 'l', 'l'] .null)
  else if c = 't' then ([], .word ['r', 'u', 'e'] (.bool true))
  else if c = 'f' then ([], .word ['a', 'l', 's', 'e'] (.bool false))
  else if c = '-' then ([], .numeral .sign { negative := true })
  else match Numeral.push? .sign {} c with
    | some (stage, numeral) => ([], .numeral stage numeral)
    | none => stop (.broken .malformed)

/-- Reads a character of a string. -/
def stepString (s : OpenString) (c : Char) : List Token × State :=
  if c = '\\' then ([], .escape s)
  else
    let s := s.release
    if c = '"' then done (s.toToken none)
    else if c.toNat < 0x20 then stop (s.toToken (some .malformed))
    else ([], .string (s.push c))

/-- Reads the character behind a backslash. -/
def stepEscape (s : OpenString) (c : Char) : List Token × State :=
  if c = 'u' then ([], .unit s 0 (some 0))
  else
    let s := s.release
    match unescape? c with
    | some c => ([], .string (s.push c))
    | none => stop (s.toToken (some .malformed))

/-- Reads a character of a numeric escape.  A character may fill more than one of its four bytes. -/
def stepUnit (s : OpenString) (count : Nat) (value : Option Nat) (c : Char) : List Token × State :=
  let count := count + c.utf8Size
  let value := do some ((← value) * 16 + (← hexValue? c))
  if count < 4 then ([], .unit s count value)
  else match value with
    | some unit => ([], .string (s.pushUnit unit))
    | none => stop (s.toToken (some .malformed))

/-- Reads one character: the tokens that it completes, and the state behind it. -/
def step (state : State) (c : Char) : List Token × State :=
  match state with
  | .between => start c
  | .word [] token => let next := start c; (token :: next.1, next.2)
  | .word (d :: due) token =>
    if c ≠ d then stop (.broken .malformed)
    else if due.isEmpty then done token
    else ([], .word due token)
  | .numeral stage numeral =>
    match numeral.push? stage c with
    | some (stage, numeral) => ([], .numeral stage numeral)
    | none =>
      if !stage.isComplete || (stage = .zero && c.isDigit) then stop (.broken .malformed)
      else let next := start c; (.number numeral :: next.1, next.2)
  | .string s => stepString s c
  | .escape s => stepEscape s c
  | .unit s count value => stepUnit s count value c
  | .stopped => ([], .stopped)

/-- The tokens that the end of the text completes. -/
def finish : State → List Token
  | .between | .stopped => []
  | .word _ _ => [.broken .ended]
  | .numeral stage numeral => [if stage.isComplete then .number numeral else .cutNumber]
  | .string s | .escape s | .unit s _ _ => [s.toToken (some .ended)]

/-- The tokens of the rest of a text. -/
def run (state : State) : List Char → List Token
  | [] => finish state
  | c :: rest => (step state c).1 ++ run (step state c).2 rest

/-- The tokens of a text. -/
def ofChars (text : List Char) : List Token := run .between text

end Token

end ConfigMigration.Json

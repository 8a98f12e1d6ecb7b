import ConfigMigration.Event
import ConfigMigration.Pattern.Reader

/-!
# Filters of the log

A filter is a list of directives, with commas between them.  A directive gives a level to the components whose names
begin in a given way, and perhaps only to events with given fields.  Of the directives that are about an event the
most specific one decides.  A directive may also name a stretch of work that events belong to; there are no such
stretches here, so such a directive decides nothing.
-/

namespace ConfigMigration

/-- Why a text is no filter. -/
inductive FilterFault where
  /-- A directive is malformed. -/
  | malformed
  /-- A part of a directive would begin or end inside a character. -/
  | insideCharacter
deriving DecidableEq, Repr

/-- A directive of a filter. -/
structure Directive where
  /-- How the names of the components begin; nothing stands for all components. -/
  target : Option String := none
  /-- Whether the directive is about a stretch of work, or about the values of fields. -/
  isScoped : Bool := false
  /-- The names of the fields that an event must have. -/
  fields : List String := []
  /-- The rank of the least severe level that is let through; 0 lets nothing through. -/
  rank : Nat := Level.trace.rank
deriving DecidableEq, Repr

namespace Directive

/-! ### Reading -/

/-- The rank of a level, which is given by its name or by a number. -/
def rank? (s : String) : Option Nat :=
  let digits := match s.toList with
    | '+' :: rest => rest
    | cs => cs
  if !digits.isEmpty && digits.all Char.isDigit then
    let n := digits.foldl (fun n c => n * 10 + (c.toNat - '0'.toNat)) 0
    if n ≤ Level.trace.rank then some n else none
  else
    [("", 1), ("off", 0), ("error", 1), ("warn", 2), ("info", 3), ("debug", 4), ("trace", 5)].lookup s.toLower

/-- Where the reader of a directive is, with the place where the current part begins. -/
inductive State where
  /-- In front of the directive. -/
  | start
  /-- In a level or the name of a target. -/
  | levelOrTarget (begin : Nat)
  /-- In the name of a stretch of work. -/
  | span (begin : Nat)
  /-- In a field. -/
  | field (begin : Nat)
  /-- Behind the fields. -/
  | behindFields
  /-- Behind the target. -/
  | behindTarget
  /-- In a level. -/
  | level (begin : Nat)
deriving DecidableEq, Repr

/-- Leaves out bytes at the front of a text, behind which a character must begin. -/
def dropBytes? : Nat → List Char → Option (List Char)
  | 0, text => some text
  | _, [] => none
  | n + 1, c :: rest => if c.utf8Size ≤ n + 1 then dropBytes? (n + 1 - c.utf8Size) rest else none

/-- The bytes at the front of a text, behind which a character must begin. -/
def takeBytes? : Nat → List Char → Option (List Char)
  | 0, _ => some []
  | _, [] => none
  | n + 1, c :: rest =>
    if c.utf8Size ≤ n + 1 then (takeBytes? (n + 1 - c.utf8Size) rest).map (c :: ·) else none

/-- The part of a text from one place to another.  Places are counted in bytes. -/
def part (text : List Char) (first last : Nat) : Except FilterFault String :=
  match dropBytes? first text >>= takeBytes? (last - first) with
  | none => .error .insideCharacter
  | some cs => .ok (String.ofList cs)

/-- Whether a text is the exponent of a number, or empty. -/
def isExponent : List Char → Bool
  | [] => true
  | c :: rest =>
    let digits := if rest.head? = some '+' ∨ rest.head? = some '-' then rest.drop 1 else rest
    (c = 'e' || c = 'E') && !digits.isEmpty && digits.all Char.isDigit

/-- Whether a text is a decimal number without a sign. -/
def isDecimal (text : List Char) : Bool :=
  let (whole, rest) := text.span Char.isDigit
  let (fraction, rest) := if rest.head? = some '.' then (rest.drop 1).span Char.isDigit else ([], rest)
  !(whole.isEmpty && fraction.isEmpty) && isExponent rest

/-- Whether a text is a number. -/
def isNumber (text : List Char) : Bool :=
  let unsigned := if text.head? = some '+' ∨ text.head? = some '-' then text.drop 1 else text
  isDecimal unsigned || (String.ofList unsigned).toLower ∈ ["inf", "infinity", "nan"]

/-- The directive with one more field, which may have a number or a pattern behind an equals sign. -/
def addField (d : Directive) (field : String) : Except FilterFault Directive :=
  match field.splitOn "=" with
  | [] | [""] => .error .malformed
  | [name] => .ok { d with fields := d.fields ++ [name] }
  | name :: value :: _ =>
    if isNumber value.toList || Pattern.isPattern value.toList then
      .ok { d with fields := d.fields ++ [name], isScoped := true }
    else .error .malformed

/-- Reads the character at place `i`. -/
def step (text : List Char) (i : Nat) (c : Char) (state : State) (d : Directive) :
    Except FilterFault (State × Directive) :=
  match state with
  | .start =>
    if c = '[' then .ok (.span (i + 1), d)
    else if c = '-' || c = ':' || c = '_' || Text.isLetterOrDigit c then .ok (.levelOrTarget i, d)
    else .error .malformed
  | .levelOrTarget first =>
    if c = '=' then do return (.level (i + 1), { d with target := some (← part text first i) })
    else if c = '[' then do return (.span (i + 1), { d with target := some (← part text first i) })
    else .ok (state, d)
  | .span first =>
    if c = ']' then do
      let _ ← part text first i
      return (.behindTarget, { d with isScoped := true })
    else if c = '\x7b' then do
      let name ← part text first i
      return (.field (i + 1), { d with isScoped := name ≠ "" })
    else .ok (state, d)
  | .field first =>
    if c = '\x7d' then do return (.behindFields, ← d.addField (← part text first i))
    else .ok (state, d)
  | .behindFields => if c = ']' then .ok (.behindTarget, d) else .error .malformed
  | .behindTarget => if c = '=' then .ok (.level (i + 1), d) else .error .malformed
  | .level _ => .ok (state, d)

/-- The directive of a text of some number of bytes that ends in a state. -/
def finish (text : List Char) (size : Nat) (d : Directive) : State → Except FilterFault Directive
  | .levelOrTarget first => do
    let s ← part text first size
    match rank? s with
    | some rank => return if s.isEmpty then d else { d with rank }
    | none => return { d with target := some s }
  | .level first => do
    let s ← part text first size
    if s.isEmpty then return d
    else
      match rank? s with
      | some rank => return { d with rank }
      | none => .error .malformed
  | .behindTarget => .ok d
  | _ => .error .malformed

/-- Reads the characters from place `i` on. -/
def read (text : List Char) (size i : Nat) (state : State) (d : Directive) : List Char → Except FilterFault Directive
  | [] => finish text size d state
  | c :: rest => do
    let (state, d) ← step text i c state d
    read text size (i + c.utf8Size) state d rest

/-- The directive of a text.  Places are counted without the blanks at the front of the text, but parts are cut out of
the text with them. -/
def parse (text : String) : Except FilterFault Directive :=
  read text.toList text.utf8ByteSize 0 .start {} (Text.trim text).toList

/-! ### Choosing -/

/-- Whether a directive is about an event.  The message of an event counts as a field. -/
def covers (d : Directive) (e : Event) : Bool :=
  !d.isScoped && d.target.all (e.component.name.startsWith ·) &&
    d.fields.all fun name => name = "message" || (e.fields.lookup name).isSome

/-- The length of a target, where none is shorter than any. -/
def targetSize (d : Directive) : Nat :=
  d.target.elim 0 (·.utf8ByteSize + 1)

/-- Whether a directive comes before another one that is about the same event and stands in front of it: its target is
longer, or as long with more fields, or with as many that do not come earlier in the alphabet. -/
def overrides (d e : Directive) : Bool :=
  if d.targetSize ≠ e.targetSize then e.targetSize < d.targetSize
  else if d.fields.length ≠ e.fields.length then e.fields.length < d.fields.length
  else !d.fields.lex e.fields

end Directive

/-- A filter. -/
abbrev LogFilter := List Directive

namespace LogFilter

/-- The filter of a text. -/
def parse (text : String) : Except FilterFault LogFilter :=
  ((text.splitOn ",").filter (· ≠ "")).mapM Directive.parse

/-- The directive that decides about an event. -/
def deciding? (f : LogFilter) (e : Event) : Option Directive :=
  f.foldl (fun best d =>
    if d.covers e && best.all (d.overrides ·) then some d else best) none

/-- Whether an event is let through. -/
def passes (f : LogFilter) (e : Event) : Bool :=
  (f.deciding? e).any fun d => e.level.rank ≤ d.rank

end LogFilter

end ConfigMigration

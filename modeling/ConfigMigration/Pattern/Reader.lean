import ConfigMigration.Pattern.Set
import ConfigMigration.Text.Numeral

/-!
# Reading patterns

Which texts are patterns.  Signs and sets follow each other, a mark behind one of them says how often it comes, bars
stand between choices, and groups are put in parentheses, with names or with switches of the mode.  Counts in braces
are not known here, so that no brace stands for itself outside of sets.
-/

namespace ConfigMigration.Pattern

/-- A part of a pattern. -/
structure Piece where
  /-- How deep other parts lie in it. -/
  height : Nat
  /-- Whether it can be repeated. -/
  isRepeatable : Bool := true
deriving DecidableEq, Repr

/-- The height of pieces that follow each other, of which one alone counts as itself. -/
def sequenceHeight (pieces : List Piece) : Nat :=
  let highest := pieces.foldl (fun height p => max height p.height) 0
  if pieces.length ≤ 1 then highest else highest + 1

/-- A group of which the end has not been read. -/
structure Group where
  /-- The mode around the group. -/
  outside : Mode
  /-- The heights of the choices in it that are complete. -/
  choices : List Nat := []
  /-- The pieces of its current choice, the last one first. -/
  pieces : List Piece := []
deriving DecidableEq, Repr

/-- The height of what a group holds. -/
def Group.height (g : Group) : Nat :=
  let current := sequenceHeight g.pieces
  if g.choices.isEmpty then current else g.choices.foldl max current + 1

/-- A pattern of which the end has not been read. -/
structure Reader where
  /-- The mode. -/
  mode : Mode := {}
  /-- The names of the groups. -/
  names : List String := []
  /-- The group that is being read; the outermost one is the pattern. -/
  here : Group := { outside := {} }
  /-- The groups around it, the nearest one first. -/
  outer : List Group := []
deriving DecidableEq, Repr

namespace Reader

/-- Adds a piece. -/
def add (r : Reader) (p : Piece) : Reader :=
  { r with here := { r.here with pieces := p :: r.here.pieces } }

/-- Begins a group, in which a mode holds. -/
def enter (r : Reader) (mode : Mode) : Reader :=
  { r with mode, here := { outside := r.mode }, outer := r.here :: r.outer }

/-- Ends a group. -/
def leave? (r : Reader) : Option Reader :=
  match r.outer with
  | [] => none
  | g :: outer => some ({ r with mode := r.here.outside, here := g, outer }.add { height := r.here.height + 1 })

/-- Ends a choice. -/
def choose (r : Reader) : Reader :=
  { r with here := { r.here with choices := sequenceHeight r.here.pieces :: r.here.choices, pieces := [] } }

/-- Repeats the last piece. -/
def repeat? (r : Reader) : Option Reader :=
  match r.here.pieces with
  | p :: pieces =>
    if p.isRepeatable then some { r with here := { r.here with pieces := { height := p.height + 1 } :: pieces } }
    else none
  | [] => none

/-- Whether a text is the name of a group. -/
def isName : List Char → Bool
  | [] => false
  | c :: rest =>
    (c = '_' || Text.isLetter c) &&
      rest.all fun c => c = '_' || c = '.' || c = '[' || c = ']' || Text.isLetterOrDigit c

/-- Reads the name of a group and begins the group. -/
def enterNamed? (r : Reader) (text : List Char) : Option (Reader × List Char) :=
  let name := text.takeWhile (· ≠ '>')
  match text.drop name.length with
  | _ :: rest =>
    if isName name && !r.names.contains (String.ofList name) then
      some ({ r with names := String.ofList name :: r.names }.enter r.mode, rest)
    else none
  | [] => none

/-- The switches at the front of a text, the mark behind them, and the rest.  No switch comes twice, and what is
switched off stands behind a hyphen. -/
def switches? (found : List Char) : List Char → Option (List Char × Char × List Char)
  | [] => none
  | c :: rest =>
    if c = ':' || c = ')' then
      if found.head? = some '-' then none else some (found.reverse, c, rest)
    else if found.contains c || !"-imsUuRx".toList.contains c then none
    else switches? (c :: found) rest

/-- The mode behind switches. -/
def switch (isOn : Bool) (mode : Mode) : List Char → Mode
  | [] => mode
  | '-' :: rest => switch false mode rest
  | 'x' :: rest => switch isOn { mode with isSpaced := isOn } rest
  | 'u' :: rest => switch isOn { mode with isWide := isOn } rest
  | _ :: rest => switch isOn mode rest

/-- Reads switches, which hold from here on or for a group that begins. -/
def switched? (r : Reader) (text : List Char) : Option (Reader × List Char) := do
  let (switches, mark, rest) ← switches? [] text
  let mode := switch true r.mode switches
  if mark = ':' then return (r.enter mode, rest)
  else if switches.isEmpty then none
  else return ({ r with mode }.add { height := 0, isRepeatable := false }, rest)

/-- Reads what stands behind an opening parenthesis.  There are no conditions on what follows or precedes. -/
def parenthesis? (r : Reader) (text : List Char) : Option (Reader × List Char) :=
  match r.mode.skip text with
  | '?' :: 'P' :: '<' :: rest => r.enterNamed? rest
  | '?' :: '<' :: '=' :: _ | '?' :: '<' :: '!' :: _ => none
  | '?' :: '<' :: rest => r.enterNamed? rest
  | '?' :: rest => r.switched? rest
  | rest => some (r.enter r.mode, rest)

/-- Reads the next part of a text that does not begin with something to skip. -/
def step? (r : Reader) : List Char → Option (Reader × List Char)
  | [] => none
  | '(' :: rest => r.parenthesis? rest
  | ')' :: rest => return (← r.leave?, rest)
  | '|' :: rest => some (r.choose, rest)
  | '[' :: rest => do
    let (height, rest) ← readSet? r.mode rest
    return (r.add { height }, rest)
  | '\x7b' :: _ => none
  | text@(c :: rest) =>
    if c = '?' || c = '*' || c = '+' then
      return (← r.repeat?, if rest.head? = some '?' then rest.drop 1 else rest)
    else do
      let (sign, rest) ← Sign.read? r.mode text
      if sign.isAllowed r.mode then some (r.add { height := 0 }, rest) else none

/-- Reads a text to its end.  `fuel` bounds the number of its characters. -/
def read? : Nat → Reader → List Char → Option Reader
  | 0, _, _ => none
  | fuel + 1, r, text =>
    match r.mode.skip text with
    | [] => some r
    | text => do
      let (r, rest) ← r.step? text
      read? fuel r rest

end Reader

/-- How deep parts of a pattern may lie in each other. -/
def maxHeight : Nat := 250

/-- Whether a text is a pattern. -/
def isPattern (text : List Char) : Bool :=
  (Reader.read? (text.length + 1) {} text).any fun r => r.outer.isEmpty && r.here.height ≤ maxHeight

end ConfigMigration.Pattern

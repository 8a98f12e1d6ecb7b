import ConfigMigration.Pattern.Sign

/-!
# Sets of characters

A set stands in brackets.  Its members are signs, ranges, kinds with a name, and other sets; operators between two
unions of members take their intersection or their difference.  Sets lie inside each other, and the height of a set
counts how deep.
-/

namespace ConfigMigration.Pattern

/-- A set of which the end has not been read. -/
structure OpenSet where
  /-- How many members there are behind the last operator. -/
  count : Nat := 0
  /-- The height of the highest of them. -/
  height : Nat := 0
  /-- The height of what stands in front of the last operator. -/
  left : Option Nat := none
deriving DecidableEq, Repr

namespace OpenSet

/-- The set with one more member. -/
def add (s : OpenSet) (height : Nat) : OpenSet :=
  { s with count := s.count + 1, height := max s.height height }

/-- The height of all that was read. -/
def total (s : OpenSet) : Nat :=
  let union := if s.count ≤ 1 then s.height else s.height + 1
  s.left.elim union fun left => max left union + 1

/-- The set behind an operator. -/
def operate (s : OpenSet) : OpenSet := { left := some s.total }

/-- The names of kinds of characters. -/
def kindNames : List String :=
  ["alnum", "alpha", "ascii", "blank", "cntrl", "digit", "graph", "lower", "print", "punct", "space", "upper", "word",
   "xdigit"]

/-- The kind with a name at the front of a text that begins behind a bracket, and whether it is negated. -/
def namedKind? : List Char → Option (Bool × List Char)
  | ':' :: rest =>
    let isNegated := rest.head? = some '^'
    let rest := rest.drop (if isNegated then 1 else 0)
    let name := rest.takeWhile (· ≠ ':')
    match rest.drop name.length with
    | ':' :: ']' :: rest => if String.ofList name ∈ kindNames then some (isNegated, rest) else none
    | _ => none
  | _ => none

/-- The hyphens at the front of a text, each of which is a member. -/
def hyphens (m : Mode) : Nat → OpenSet → List Char → OpenSet × List Char
  | fuel + 1, s, '-' :: rest => hyphens m fuel (s.add 0) (m.skip rest)
  | _, s, text => (s, text)

/-- The set at the front of a text that begins behind its bracket.  A bracket that ends a set is a member in front of
all others, and so are hyphens. -/
def open? (m : Mode) (text : List Char) : Option (OpenSet × List Char) :=
  let text := m.skip text
  let isNegated := text.head? = some '^'
  let text := if isNegated then m.skip (text.drop 1) else text
  let (s, text) := hyphens m text.length {} text
  let isMember := s.count = 0 && text.head? = some ']'
  let text := if isMember then m.skip (text.drop 1) else text
  if text.isEmpty || (isNegated && !m.isWide) then none else some (if isMember then s.add 0 else s, text)

/-- The character that decides whether a hyphen is the one of a range.  In spaced patterns it is looked for behind
blanks and one number sign. -/
def behindHyphen (m : Mode) (text : List Char) : Option Char :=
  if m.isSpaced then
    match text.dropWhile Text.isBlank with
    | '#' :: rest => (rest.dropWhile Text.isBlank).head?
    | rest => rest.head?
  else text.head?

/-- The rest of a text behind the sign or the range at its front. -/
def range? (m : Mode) (text : List Char) : Option (List Char) := do
  let (first, rest) ← Sign.readInSet? m text
  let rest := m.skip rest
  if !first.isAllowedInSet m then none
  else if rest.head? ≠ some '-' || behindHyphen m (rest.drop 1) = some ']' ||
      behindHyphen m (rest.drop 1) = some '-' then
    some rest
  else
    let (last, rest) ← Sign.readInSet? m (m.skip (rest.drop 1))
    match first, last with
    | .character a _, .character b _ => if a ≤ b && last.isAllowedInSet m then some rest else none
    | _, _ => none

/-- Reads a set to its end: its height, and the rest of the text.  `outer` are the sets around it, the nearest one
first, and `fuel` bounds the number of characters. -/
def read? (m : Mode) : Nat → OpenSet → List OpenSet → List Char → Option (Nat × List Char)
  | 0, _, _, _ => none
  | fuel + 1, s, outer, text =>
    match m.skip text with
    | [] => none
    | ']' :: rest =>
      match outer with
      | [] => some (s.total + 1, rest)
      | t :: outer => read? m fuel (t.add (s.total + 1)) outer rest
    | '[' :: rest =>
      match namedKind? rest with
      | some (isNegated, rest) => if isNegated && !m.isWide then none else read? m fuel (s.add 0) outer rest
      | none => do
        let (inner, rest) ← open? m rest
        read? m fuel inner (s :: outer) rest
    | '&' :: '&' :: rest | '-' :: '-' :: rest | '~' :: '~' :: rest => read? m fuel s.operate outer rest
    | text => do read? m fuel (s.add 0) outer (← range? m text)

end OpenSet

/-- The height of the set at the front of a text that begins behind its bracket, and the rest of the text. -/
def readSet? (m : Mode) (text : List Char) : Option (Nat × List Char) := do
  let (s, rest) ← OpenSet.open? m text
  OpenSet.read? m (rest.length + 1) s [] rest

end ConfigMigration.Pattern

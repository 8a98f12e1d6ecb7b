import ConfigMigration.Path.Basic

/-!
# Reading paths

A path text is cut at the slashes that lie outside of brackets, and empty segments are passed over.  A segment is a
name with bracketed groups behind it; a group gives a key if it holds an equals sign, and counts for nothing
otherwise.  Every text is a path.
-/

namespace ConfigMigration.Path

/-! ### Segments -/

/-- The number of open brackets behind a character.  A closing bracket without an opening one does not count. -/
def depthAfter (depth : Nat) (c : Char) : Nat :=
  if c = '[' then depth + 1 else if c = ']' then depth - 1 else depth

/-- The segments of a text that begins inside of `depth` brackets. -/
def segmentsFrom (depth : Nat) : List Char → List (List Char)
  | [] => [[]]
  | c :: text =>
    if c = '/' ∧ depth = 0 then [] :: segmentsFrom 0 text
    else match segmentsFrom (depthAfter depth c) text with
      | [] => [[c]]
      | segment :: segments => (c :: segment) :: segments

/-- The segments of a text: it is cut at every slash outside of brackets. -/
def segments (text : List Char) : List (List Char) := segmentsFrom 0 text

/-! ### Elements -/

mutual

/-- The contents of the bracketed groups that stand one behind the other at the beginning of a text. -/
def groups : List Char → List (List Char)
  | [] => []
  | c :: text => if c = '[' then groupsInside [] text else []
termination_by structural text => text

/-- The contents of the groups from the middle of the first one; a group that is not closed counts for nothing. -/
def groupsInside (reversed : List Char) : List Char → List (List Char)
  | [] => []
  | c :: text => if c = ']' then reversed.reverse :: groups text else groupsInside (c :: reversed) text
termination_by structural text => text

end

/-- The name and the value in a group, parted by the first equals sign. -/
def splitKey? (group : List Char) : Option (String × String) :=
  if '=' ∈ group then
    some (String.ofList (group.takeWhile (· ≠ '=')), String.ofList ((group.dropWhile (· ≠ '=')).drop 1))
  else none

/-- The element of a segment. -/
def elemOfChars (segment : List Char) : PathElem where
  name := String.ofList (segment.takeWhile (· ≠ '['))
  keys := Keys.ofList ((groups (segment.dropWhile (· ≠ '['))).filterMap splitKey?)

/-! ### Paths -/

/-- The path of a text. -/
def ofChars (text : List Char) : Path where
  elems := ((segments text).filter (!·.isEmpty)).map elemOfChars

/-- The path of a text. -/
def parse (s : String) : Path := ofChars s.toList

end ConfigMigration.Path

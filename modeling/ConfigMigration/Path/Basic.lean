import ConfigMigration.Dictionary

/-!
# Paths

A path leads from the root of a tree to one of its nodes.  Each element names a member of an object; its keys, if
it has any, single out an entry of the list that is found there.  A path may carry the target whose tree it is
about.
-/

namespace ConfigMigration

/-- The keys of a path element, by name; each name has one value. -/
structure Keys where
  /-- Names and values, in the order of the names. -/
  entries : List (String × String)
  /-- The names ascend. -/
  ordered : Dictionary.Ordered entries
deriving DecidableEq

namespace Keys

/-- No keys. -/
def empty : Keys := ⟨[], List.Pairwise.nil⟩

instance : EmptyCollection Keys := ⟨empty⟩

instance : Inhabited Keys := ⟨empty⟩

/-- The keys with `value` under `name`. -/
def insert (keys : Keys) (name value : String) : Keys :=
  ⟨Dictionary.insert name value keys.entries, keys.ordered.insert name value⟩

/-- The keys of a list of names and values; of two values under one name the later counts. -/
def ofList (l : List (String × String)) : Keys :=
  ⟨Dictionary.ofList l, Dictionary.ordered_ofList l⟩

/-- The value under a name. -/
def get? (keys : Keys) (name : String) : Option String :=
  keys.entries.lookup name

/-- The number of keys. -/
def size (keys : Keys) : Nat := keys.entries.length

/-- Whether there are no keys. -/
def isEmpty (keys : Keys) : Bool := keys.entries.isEmpty

@[simp] theorem get?_insert_self (keys : Keys) (name value : String) :
    (keys.insert name value).get? name = some value :=
  Dictionary.lookup_insert_self name value keys.entries

theorem get?_insert_of_ne {name other : String} (h : other ≠ name) (keys : Keys) (value : String) :
    (keys.insert name value).get? other = keys.get? other :=
  Dictionary.lookup_insert_of_ne h value keys.entries

theorem ofList_entries (keys : Keys) : ofList keys.entries = keys := by
  obtain ⟨entries, ordered⟩ := keys
  rw [ofList, mk.injEq]
  exact Dictionary.ofList_of_ordered ordered

end Keys

/-- One level of a path. -/
structure PathElem where
  /-- The name of a member. -/
  name : String
  /-- The keys of an entry of the list found there. -/
  keys : Keys := ∅
deriving DecidableEq, Inhabited

namespace PathElem

/-- The text of a key in brackets. -/
def keyText (key : String × String) : List Char :=
  '[' :: (key.1.toList ++ '=' :: (key.2.toList ++ [']']))

/-- The characters of the text of an element. -/
def chars (e : PathElem) : List Char :=
  e.name.toList ++ e.keys.entries.flatMap keyText

/-- The text of an element: its name and its keys in brackets. -/
def text (e : PathElem) : String := String.ofList e.chars

end PathElem

/-- A path into the tree of a target. -/
structure Path where
  /-- The target whose tree the path is about. -/
  target : Option String := none
  /-- The elements from the root on. -/
  elems : List PathElem := []
deriving DecidableEq, Inhabited

namespace Path

/-- The path that stays at the root. -/
def root : Path := {}

/-- Whether the path stays at the root. -/
def isRoot (p : Path) : Bool := p.elems.isEmpty

/-- The number of elements. -/
def length (p : Path) : Nat := p.elems.length

/-- The path with another target. -/
def withTarget (p : Path) (target : String) : Path := { p with target := some target }

/-- The path with one more element without keys. -/
def push (p : Path) (name : String) : Path := { p with elems := p.elems ++ [{ name }] }

/-- The path with a key added to its last element; the root stays as it is. -/
def pushKey (p : Path) (name value : String) : Path :=
  match p.elems.getLast? with
  | none => p
  | some e => { p with elems := p.elems.dropLast ++ [{ e with keys := e.keys.insert name value }] }

/-- One path behind another, with the target of the first. -/
def join (p q : Path) : Path := { p with elems := p.elems ++ q.elems }

/-- The last element. -/
def last? (p : Path) : Option PathElem := p.elems.getLast?

/-- The characters of the text of a path. -/
def chars (p : Path) : List Char :=
  if p.elems.isEmpty then ['/'] else p.elems.flatMap fun e => '/' :: e.chars

/-- The text of a path: each element behind a slash, and the root as a slash. -/
def text (p : Path) : String := String.ofList p.chars

@[simp] theorem elems_join (p q : Path) : (p.join q).elems = p.elems ++ q.elems := rfl

@[simp] theorem target_join (p q : Path) : (p.join q).target = p.target := rfl

theorem join_assoc (p q r : Path) : (p.join q).join r = p.join (q.join r) := by
  simp [join, List.append_assoc]

end Path

end ConfigMigration

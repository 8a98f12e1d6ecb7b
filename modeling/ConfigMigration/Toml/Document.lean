import ConfigMigration.Toml.Number
import ConfigMigration.Toml.Table

/-!
# TOML documents

A document is a list of statements, one a line: headers, which name the table that the following lines belong to,
and keys with their values.  `parse?` reads a text as a document and puts its tables together.
-/

namespace ConfigMigration.Toml

open Reader

/-! ### Values -/

/-- Takes a key and its value. -/
def assignment (value : Reader Value) : Reader (Key × Value) := do
  let k ← key
  char '='
  blanks
  return (k, ← value)

/-- Takes an array. -/
def array (value : Reader Value) : Reader Value := do
  char '['
  let items ← (do
    let items ← separated (char ',') (gaps *> value <* gaps)
    discard (optional (char ','))
    return items) <|> pure []
  gaps
  char ']'
  return .array items

/-- The table of keys with values. -/
def tableOf? (assignments : List (Key × Value)) : Option Entries :=
  assignments.foldlM (fun t (k, v) => Entries.add v k.name k.path t) []

/-- Takes a table on one line. -/
def inlineTable (value : Reader Value) : Reader Value := do
  char '\x7b'
  let assignments ← separated (char ',') (assignment value <* blanks) <|> pure []
  blanks
  char '\x7d'
  match tableOf? assignments with
  | some t => return .table (entriesToValues t)
  | none => failure

/-- Takes a value in which arrays and tables lie so many deep at most. -/
def value : Nat → Reader Value
  | 0 => simple
  | depth + 1 => simple <|> array (value depth) <|> inlineTable (value depth)

/-! ### Statements -/

/-- A line of a document. -/
inductive Statement where
  /-- The header of a table. -/
  | table (key : Key)
  /-- The header of a further table of an array of tables. -/
  | item (key : Key)
  /-- A key with its value. -/
  | assign (key : Key) (value : Value)
deriving Repr

/-- Takes a statement. -/
def statement : Reader Statement :=
  (do word "[["; let k ← key; word "]]"; lineEnd; return .item k) <|>
  (do char '['; let k ← key; char ']'; lineEnd; return .table k) <|>
  (do let (k, v) ← assignment (value maxDepth); lineEnd; return .assign k v)

/-- Takes the statements of a document, which may begin with a byte order mark. -/
def statements : Reader (List Statement) := do
  discard (optional (char '\uFEFF'))
  let items ← many ((some <$> (blanks *> statement)) <|> (lineEnd *> pure none))
  ending
  return items.filterMap id

/-! ### Documents -/

/-- A document that is being put together. -/
structure Draft where
  /-- The entries so far. -/
  root : Entries := []
  /-- The names on the way to the table that keys belong to. -/
  here : List String := []

/-- Carries out a statement. -/
def Draft.apply? (d : Draft) : Statement → Option Draft
  | .table k => do return ⟨← d.root.descend (Entries.openTable k.name) k.path, k.names⟩
  | .item k => do return ⟨← d.root.descend (Entries.openItem k.name) k.path, k.names⟩
  | .assign k v => do return { d with root := ← d.root.descend (Entries.add v k.name k.path) d.here }

/-- The value of a document. -/
def parse? (text : String) : Option Value := do
  let (list, _) ← statements text.toList
  let d ← list.foldlM Draft.apply? ({} : Draft)
  return .table (entriesToValues d.root)

end ConfigMigration.Toml

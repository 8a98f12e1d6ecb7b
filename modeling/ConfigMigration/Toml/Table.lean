import ConfigMigration.Dictionary
import ConfigMigration.Toml.Quoted
import ConfigMigration.Toml.Basic

/-!
# Tables of TOML

A document names its tables in several ways: by a header, on the way to a longer header, or by the front of a dotted
key.  Which of them came first decides what may be added to a table later, so tables keep their origin while a
document is put together.
-/

namespace ConfigMigration.Toml

/-- How a table came about. -/
inductive Origin where
  /-- By a header of its own. -/
  | header
  /-- On the way to the table of a longer header. -/
  | onTheWay
  /-- By a dotted key. -/
  | dottedKey
deriving DecidableEq, Repr

/-- What stands under a name in a document. -/
inductive Node where
  /-- A value. -/
  | value (v : Value)
  /-- A table. -/
  | table (origin : Origin) (entries : List (String × Node))
  /-- A nonempty array of tables, with the last one in front. -/
  | tables (last : List (String × Node)) (earlier : List (List (String × Node)))

/-- The entries of a table. -/
abbrev Entries := List (String × Node)

namespace Entries

/-- Adds a value under a dotted key.  The names in front of the last one must not lead through a value or a table
with a header, and the last table must be there by a dotted key. -/
def add (v : Value) (name : String) : List String → Entries → Option Entries
  | [], t => if (t.lookup name).isSome then none else some (Dictionary.insert name (.value v) t)
  | first :: path, t =>
    match t.lookup first with
    | none => do
      let child ← add v name path []
      return Dictionary.insert first (.table .dottedKey child) t
    | some (.value _) | some (.table .header _) => none
    | some (.table origin child) => do
      guard (origin = .dottedKey ∨ path ≠ [])
      return Dictionary.insert first (.table origin (← add v name path child)) t
    | some (.tables last earlier) => do
      guard (path ≠ [])
      return Dictionary.insert first (.tables (← add v name path last) earlier) t

/-- Changes the table at a path.  Of an array of tables the last one is meant, and missing tables are made. -/
def descend (change : Entries → Option Entries) : List String → Entries → Option Entries
  | [], t => change t
  | first :: path, t =>
    match t.lookup first with
    | none => do return Dictionary.insert first (.table .onTheWay (← descend change path [])) t
    | some (.value _) => none
    | some (.table origin child) => do
      return Dictionary.insert first (.table origin (← descend change path child)) t
    | some (.tables last earlier) => do
      return Dictionary.insert first (.tables (← descend change path last) earlier) t

/-- Opens the table of a header.  It may be there already if it lay on the way to another one. -/
def openTable (name : String) (t : Entries) : Option Entries :=
  match t.lookup name with
  | none => some (Dictionary.insert name (.table .header []) t)
  | some (.table .onTheWay child) => some (Dictionary.insert name (.table .header child) t)
  | some _ => none

/-- Opens a further table of an array of tables. -/
def openItem (name : String) (t : Entries) : Option Entries :=
  match t.lookup name with
  | none => some (Dictionary.insert name (.tables [] []) t)
  | some (.tables last earlier) => some (Dictionary.insert name (.tables [] (last :: earlier)) t)
  | some _ => none

end Entries

mutual

/-- The value of a node. -/
def Node.toValue : Node → Value
  | .value v => v
  | .table _ entries => .table (entriesToValues entries)
  | .tables last earlier => .array (tablesToValues earlier [.table (entriesToValues last)])
termination_by structural node => node

/-- The values of entries. -/
def entriesToValues : List (String × Node) → List (String × Value)
  | [] => []
  | (name, node) :: entries => (name, node.toValue) :: entriesToValues entries
termination_by structural entries => entries

/-- The values of tables, which are given in reverse, in front of other values. -/
def tablesToValues : List (List (String × Node)) → List Value → List Value
  | [], later => later
  | t :: earlier, later => tablesToValues earlier (.table (entriesToValues t) :: later)
termination_by structural earlier => earlier

end

end ConfigMigration.Toml

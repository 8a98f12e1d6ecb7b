import ConfigMigration.Path.Basic
import ConfigMigration.Scalar

/-!
# Editing trees

A path element leads from an object to one of its members, and with keys on to the first entry of the list there
whose fields show the values of the keys.  Writing makes the objects, lists and entries that are missing on the way
and never replaces one that is there; removing what is not there changes nothing.
-/

namespace ConfigMigration.Tree

/-- Whether an entry of a list shows the values of keys: its fields are scalars with these texts. -/
def matchesKeys (keys : Keys) (entry : Json) : Bool :=
  keys.entries.all fun key => (entry.member? key.1).bind Json.scalarText? = some key.2

/-- The entry of a list that has the keys and nothing else. -/
def entryOfKeys (keys : Keys) : Json :=
  .object (keys.entries.map fun key => (key.1, .string key.2))

/-! ### Looking up -/

/-- The node that an element leads to. -/
def child? (e : PathElem) (node : Json) : Option Json := do
  let field ← node.member? e.name
  if e.keys.isEmpty then some field else (← field.items?).find? (matchesKeys e.keys)

/-- The node that elements lead to. -/
def find? : List PathElem → Json → Option Json
  | [], node => some node
  | e :: elems, node => (child? e node).bind (find? elems)

/-! ### Writing -/

/-- Why a leaf cannot be written. -/
inductive WriteFault where
  /-- The path stays at the root. -/
  | atRoot
  /-- The last element has keys. -/
  | keyedLeaf
  /-- A node on the way is no object. -/
  | noContainer
  /-- The member that an element with keys names is no list. -/
  | noList
  /-- The node that would hold the leaf is no object. -/
  | noParent
deriving DecidableEq, Repr

/-- The reason that is given for a fault. -/
def WriteFault.reason : WriteFault → String
  | atRoot => "cannot write a value at the root"
  | keyedLeaf => "leaf element carries keys"
  | noContainer => "intermediate node is not a container"
  | noList => "keyed element is not a list"
  | noParent => "parent is not a container"

/-- Changes the first member of a list that satisfies `p`, or adds the changed `fresh` at the end. -/
def changeFirst {α ε : Type} (p : α → Bool) (f : α → Except ε α) (fresh : α) : List α → Except ε (List α)
  | [] => do return [← f fresh]
  | a :: l => if p a then do return (← f a) :: l else do return a :: (← changeFirst p f fresh l)

/-- Changes the node that an element leads to; it is made if it is missing. -/
def changeChild (e : PathElem) (f : Json → Except WriteFault Json) : Json → Except WriteFault Json
  | .object members =>
    if e.keys.isEmpty then do
      let child ← f ((members.lookup e.name).getD .emptyObject)
      return .object (Dictionary.insert e.name child members)
    else
      match (members.lookup e.name).getD (.array []) with
      | .array items => do
        let items ← changeFirst (matchesKeys e.keys) f (entryOfKeys e.keys) items
        return .object (Dictionary.insert e.name (.array items) members)
      | _ => .error .noList
  | _ => .error .noContainer

/-- Writes a member into an object. -/
def writeMember (name : String) (value : Json) : Json → Except WriteFault Json
  | .object members => .ok (.object (Dictionary.insert name value members))
  | _ => .error .noParent

/-- Writes a member into the object that elements lead to. -/
def writeAt (name : String) (value : Json) : List PathElem → Json → Except WriteFault Json
  | [], node => writeMember name value node
  | e :: elems, node => changeChild e (writeAt name value elems) node

/-- Writes a leaf. -/
def write (p : Path) (value : Scalar) (tree : Json) : Except WriteFault Json :=
  match p.elems.getLast? with
  | none => .error .atRoot
  | some leaf =>
    if leaf.keys.isEmpty then writeAt leaf.name value.toJson p.elems.dropLast tree else .error .keyedLeaf

/-! ### Removing -/

/-- Changes the first member of a list that satisfies `p`. -/
def mapFirst {α : Type} (p : α → Bool) (f : α → α) : List α → List α
  | [] => []
  | a :: l => if p a then f a :: l else a :: mapFirst p f l

/-- Changes the items of an array; any other value stays as it is. -/
def mapItems (f : List Json → List Json) : Json → Json
  | .array items => .array (f items)
  | value => value

/-- Changes the value under a name in an object; a value without that member stays as it is. -/
def mapMember (name : String) (f : Json → Json) : Json → Json
  | .object members => .object (mapFirst (·.1 = name) (fun member => (member.1, f member.2)) members)
  | value => value

/-- Changes the node that an element leads to, if there is one. -/
def mapChild (e : PathElem) (f : Json → Json) : Json → Json :=
  mapMember e.name (if e.keys.isEmpty then f else mapItems (mapFirst (matchesKeys e.keys) f))

/-- Removes what an element leads to: a member, or every entry of a list that shows the values of the keys. -/
def removeChild (e : PathElem) : Json → Json :=
  if e.keys.isEmpty then fun
    | .object members => .object (Dictionary.erase e.name members)
    | value => value
  else mapMember e.name (mapItems (List.filter fun entry => !matchesKeys e.keys entry))

/-- Removes the node that elements lead to. -/
def removeAt : List PathElem → Json → Json
  | [], _ => .emptyObject
  | [e], node => removeChild e node
  | e :: elems, node => mapChild e (removeAt elems) node

/-- Removes a node; the tree itself becomes an object without members. -/
def remove (p : Path) (tree : Json) : Json := removeAt p.elems tree

end ConfigMigration.Tree

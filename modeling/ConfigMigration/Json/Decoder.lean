import ConfigMigration.Json.Basic
import ConfigMigration.Json.Term

/-!
# Typed readings of JSON

A decoder reads a term as a value of a given type.  It goes through the term in the order of the text, so of two
faults it reports the one that comes first.  Records read the members that they know and pass over the others, in
which only the grammar counts.  Arrays and objects may lie 127 deep.
-/

namespace ConfigMigration.Json

/-- Reads a term that may hold so many further levels of arrays and objects. -/
abbrev Decoder (α : Type) := Nat → Term → Except Fault α

/-- Reads several parts of a term as values. -/
abbrev Decoder.Many (β α : Type) := Nat → List β → Except Fault (List α)

/-- The number of levels that arrays and objects may be nested. -/
def maxDepth : Nat := 127

/-- The fault of a string whose content is not wanted. -/
def Spelling.fault? : Spelling → Option Fault
  | text _ => none
  | unpaired later => later
  | broken fault => some fault

/-- The content of a string. -/
def Spelling.content : Spelling → Except Fault String
  | text s => .ok s
  | unpaired _ => .error .malformed
  | broken fault => .error fault

namespace Term

mutual

/-- The first fault of a term whose content is not wanted. -/
def fault? : Term → Option Fault
  | null | bool _ | number _ => none
  | cutNumber => some .malformed
  | string s => s.fault?
  | array items ending => (firstFault? items).or ending
  | object members ending => (firstMemberFault? members).or ending
  | broken fault => some fault
termination_by structural t => t

/-- The first fault of terms whose content is not wanted. -/
def firstFault? : List Term → Option Fault
  | [] => none
  | t :: ts => t.fault?.or (firstFault? ts)
termination_by structural ts => ts

/-- The first fault of members whose content is not wanted. -/
def firstMemberFault? : List (Spelling × Term) → Option Fault
  | [] => none
  | (name, t) :: members => (name.fault?.or t.fault?).or (firstMemberFault? members)
termination_by structural members => members

end

/-- The fault of a term where a value of another kind is wanted.  A scalar has to be complete to be of a wrong kind;
an array or object shows its kind by its first character. -/
def wrongKind : Term → Fault
  | null | bool _ | string (.text _) | array _ _ | object _ _ => .mismatched
  | number numeral => if numeral.toNumber?.isSome then .mismatched else .malformed
  | cutNumber => .ended
  | string (.unpaired _) => .malformed
  | string (.broken fault) | broken fault => fault

end Term

namespace Decoder

variable {α ρ : Type}

/-- Fails with a fault, if there is one. -/
def check : Option Fault → Except Fault Unit
  | none => .ok ()
  | some fault => .error fault

/-- Goes one level deeper. -/
def deeper (read : Nat → Except Fault α) : Nat → Except Fault α
  | 0 => .error .malformed
  | depth + 1 => read depth

/-- Reads a string. -/
def string : Decoder String
  | _, .string s => s.content
  | _, t => .error t.wrongKind

/-- Reads a number in the range of `ofInt?`. -/
def integer (ofInt? : Int → Option α) : Decoder α
  | _, .number numeral =>
    match numeral.toNumber? with
    | none => .error .malformed
    | some (.double _) => .error .mismatched
    | some (.integer n) => (ofInt? n).elim (.error .mismatched) .ok
  | _, t => .error t.wrongKind

/-- Reads an unsigned integer of 64 bits. -/
def uint64 : Decoder UInt64 :=
  integer fun n => if 0 ≤ n ∧ n < UInt64.size then some n.toNat.toUInt64 else none

/-- Reads a signed integer of 64 bits. -/
def int64 : Decoder Int64 :=
  integer fun n => if Int64.minValue.toInt ≤ n ∧ n ≤ Int64.maxValue.toInt then some (.ofInt n) else none

/-- Reads null as nothing, and any other term with `d`. -/
def optional (d : Decoder α) : Decoder (Option α)
  | _, .null => .ok none
  | depth, t => some <$> d depth t

/-- Reads the items of an array. -/
def list (d : Decoder α) : Decoder (List α)
  | depth, .array items ending =>
    deeper (fun depth => do
      let values ← items.mapM (d depth)
      check ending
      return values) depth
  | _, t => .error t.wrongKind

/-- Reads the members of an object; of two members under one name the later counts. -/
def dictionary (d : Decoder α) : Decoder (List (String × α))
  | depth, .object members ending =>
    deeper (fun depth => do
      let entries ← members.mapM fun member => do
        let name ← member.1.content
        return (name, ← d depth member.2)
      check ending
      return Dictionary.ofList entries) depth
  | _, t => .error t.wrongKind

/-! ### Values -/

mutual

/-- Reads any value; of two members under one name the later counts. -/
def value : Decoder Json
  | _, .null => .ok .null
  | _, .bool b => .ok (.bool b)
  | _, .number numeral => numeral.toNumber?.elim (.error .malformed) fun n => .ok (.number n)
  | _, .cutNumber => .error .ended
  | _, .string s => s.content.map .string
  | 0, .array _ _ => .error .malformed
  | depth + 1, .array items ending => do
    let values ← values depth items
    check ending
    return .array values
  | 0, .object _ _ => .error .malformed
  | depth + 1, .object members ending => do
    let entries ← entries depth members
    check ending
    return .object (Dictionary.ofList entries)
  | _, .broken fault => .error fault
termination_by structural _ t => t

/-- Reads terms as values. -/
def values : Decoder.Many Term Json
  | _, [] => .ok []
  | depth, t :: ts => do
    let v ← value depth t
    return v :: (← values depth ts)
termination_by structural _ ts => ts

/-- Reads members with any values. -/
def entries : Decoder.Many (Spelling × Term) (String × Json)
  | _, [] => .ok []
  | depth, (name, t) :: members => do
    let name ← name.content
    let v ← value depth t
    return (name, v) :: (← entries depth members)
termination_by structural _ members => members

end

/-! ### Records -/

/-- A member of a record that is put together in `ρ`. -/
structure Field (ρ : Type) where
  /-- The name of the member. -/
  name : String
  /-- Whether the member has been read. -/
  isSet : ρ → Bool
  /-- Reads the member. -/
  read : ρ → Decoder ρ
  /-- Whether an array of the members may end before this one. -/
  mayEnd : Bool

/-- The member `name`, kept by `set` and looked up by `get?`. -/
def Field.of {β : Type} (name : String) (get? : ρ → Option β) (set : ρ → β → ρ) (d : Decoder β) (mayEnd : Bool) :
    Field ρ where
  name
  isSet record := (get? record).isSome
  read record depth t := set record <$> d depth t
  mayEnd

/-- Reads the members of an object.  A known member must not occur twice; others are passed over. -/
def readMembers (fields : List (Field ρ)) (depth : Nat) (record : ρ) :
    List (Spelling × Term) → Except Fault ρ
  | [] => .ok record
  | (name, t) :: members => do
    let name ← name.content
    match fields.find? (·.name = name) with
    | some field =>
      if field.isSet record then .error .mismatched
      else readMembers fields depth (← field.read record depth t) members
    | none =>
      check t.fault?
      readMembers fields depth record members

/-- Reads the members of a record that is written as an array, in the order in which they are declared. -/
def readItems (depth : Nat) (ending : Option Fault) : List (Field ρ) → ρ → List Term → Except Fault ρ
  | field :: fields, record, t :: ts => do readItems depth ending fields (← field.read record depth t) ts
  | [], _, _ :: _ => .error .malformed
  | fields, record, [] => do
    check ending
    if fields.all (·.mayEnd) then .ok record else .error .mismatched

/-- Reads a record, which is written as an object or as an array of its members.  The record is put together from
`blank`, and `finish` tells whether nothing is missing. -/
def record (fields : List (Field ρ)) (blank : ρ) (finish : ρ → Option α) : Decoder α
  | depth, .object members ending =>
    deeper (fun depth => do
      let r ← readMembers fields depth blank members
      check ending
      (finish r).elim (.error .mismatched) .ok) depth
  | depth, .array items ending =>
    deeper (fun depth => do
      let r ← readItems depth ending fields blank items
      (finish r).elim (.error .mismatched) .ok) depth
  | _, t => .error t.wrongKind

/-! ### Texts -/

/-- Reads a text that holds one value and nothing else. -/
def decode (d : Decoder α) (text : String) : Except Fault α := do
  let document := Document.ofChars text.toList
  let a ← d maxDepth document.value
  if document.trailing then .error .malformed else .ok a

end Decoder

/-- The value of a JSON text. -/
def parse (text : String) : Except Fault Json :=
  Decoder.value.decode text

end ConfigMigration.Json

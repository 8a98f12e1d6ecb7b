import ConfigMigration.Json.Basic

/-!
# Scalars

The values that an update writes.  The widths of unsigned integers are kept apart, so that a step can state the
width that the schema asks for; in a tree they are all integers.
-/

namespace ConfigMigration

/-- A value of a leaf. -/
inductive Scalar where
  /-- A text. -/
  | string (s : String)
  /-- An unsigned integer of 8 bits. -/
  | uint8 (n : UInt8)
  /-- An unsigned integer of 16 bits. -/
  | uint16 (n : UInt16)
  /-- An unsigned integer of 32 bits. -/
  | uint32 (n : UInt32)
  /-- An unsigned integer of 64 bits. -/
  | uint64 (n : UInt64)
  /-- A signed integer of 64 bits. -/
  | int64 (n : Int64)
  /-- A truth value. -/
  | bool (b : Bool)
deriving DecidableEq

namespace Scalar

/-- The name of the kind of a scalar. -/
def kind : Scalar → String
  | string _ => "string"
  | uint8 _ => "uint8"
  | uint16 _ => "uint16"
  | uint32 _ => "uint32"
  | uint64 _ => "uint64"
  | int64 _ => "int64"
  | bool _ => "bool"

/-- The value of an unsigned integer, whatever its width. -/
def toUInt64? : Scalar → Option UInt64
  | uint8 n => some n.toUInt64
  | uint16 n => some n.toUInt64
  | uint32 n => some n.toUInt64
  | uint64 n => some n
  | _ => none

/-- The scalar as a node of a tree. -/
def toJson : Scalar → Json
  | string s => .string s
  | uint8 n => .ofInt n.toNat
  | uint16 n => .ofInt n.toNat
  | uint32 n => .ofInt n.toNat
  | uint64 n => .ofInt n.toNat
  | int64 n => .ofInt n.toInt
  | bool b => .bool b

/-- The text of a scalar. -/
def text : Scalar → String
  | string s => s
  | uint8 n => String.ofList (integerText n.toNat)
  | uint16 n => String.ofList (integerText n.toNat)
  | uint32 n => String.ofList (integerText n.toNat)
  | uint64 n => String.ofList (integerText n.toNat)
  | int64 n => String.ofList (integerText n.toInt)
  | bool b => if b then "true" else "false"

/-- A scalar has the same text in a tree as on its own. -/
theorem scalarText?_toJson (v : Scalar) : v.toJson.scalarText? = some v.text := by
  cases v <;> rfl

end Scalar

end ConfigMigration

import ConfigMigration.Path.Codec
import ConfigMigration.Store.Basic
import ConfigMigration.Text.Base64
import ConfigMigration.Text.Blank

/-!
# Messages to a gateway

The requests to a store as JSON messages, and what the answers to them hold.  A tree comes back as a JSON value or
as a string with the base 64 of its text; the first value in an answer that is not null counts.
-/

namespace ConfigMigration.Message

open Json (Decoder)

/-! ### Requests -/

/-- The message that asks for a node. -/
def ofGet (target : String) (path : Path) : Json :=
  .object
    [("prefix", (Path.root.withTarget target).toJson), ("path", .array [path.toJson]), ("encoding", .string "JSON")]

/-- A value, under the name of its kind.  The width of an unsigned integer is not told. -/
def ofScalar : Scalar → Json
  | .string s => .object [("stringVal", .string s)]
  | .uint8 n => .object [("uintVal", .ofInt n.toNat)]
  | .uint16 n => .object [("uintVal", .ofInt n.toNat)]
  | .uint32 n => .object [("uintVal", .ofInt n.toNat)]
  | .uint64 n => .object [("uintVal", .ofInt n.toNat)]
  | .int64 n => .object [("intVal", .ofInt n.toInt)]
  | .bool b => .object [("boolVal", .bool b)]

/-- An update. -/
def ofUpdate (u : Update) : Json :=
  .object [("path", u.path.toJson), ("val", ofScalar u.value)]

/-- A list under a name, which is left out if it is empty. -/
def listMember (name : String) : List Json → List (String × Json)
  | [] => []
  | items => [(name, .array items)]

/-- The message that asks for a change. -/
def ofSet (r : SetRequest) : Json :=
  .object (("prefix", r.scopedBase.toJson) ::
    (listMember "update" (r.updates.map ofUpdate) ++ listMember "delete" (r.deletes.map Path.toJson)))

/-! ### Answers -/

/-- Reads a record with one member of interest, which may be missing if there is a standard value for it. -/
def member {α : Type} (name : String) (standard : Option α) (d : Decoder α) : Decoder α :=
  .record [.of name id (fun _ a => some a) d standard.isSome] none fun a => a.or standard

/-- Reads the value of an update: nothing if it is missing or null. -/
def valueDecoder : Decoder (Option Json) :=
  member "jsonVal" (some none) (.optional .value)

/-- Reads the values of an answer to a Get. -/
def valuesDecoder : Decoder (List (Option Json)) := fun depth t =>
  List.flatten <$>
    member "notification" (some [])
      (.list (member "update" (some []) (.list (member "val" none valueDecoder)))) depth t

/-- Reads the time stamp of an answer to a Set. -/
def timestampDecoder : Decoder Int64 :=
  member "timestamp" (some 0) .int64

/-- The tree that a value stands for, or what is wrong with it. -/
def treeOf : Json → Except String Json
  | .string s =>
    match Base64.decode (Text.trim s).toList with
    | none => .error "<base64>"
    | some bytes =>
      match (String.fromUTF8? ⟨bytes.toArray⟩).map Json.parse with
      | some (.ok tree) => .ok tree
      | _ => .error "<json>"
  | tree => .ok tree

end ConfigMigration.Message

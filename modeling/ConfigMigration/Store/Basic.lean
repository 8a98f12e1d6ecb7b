import ConfigMigration.Event
import ConfigMigration.Json.Fault
import ConfigMigration.Json.Printer
import ConfigMigration.Settings.Error
import ConfigMigration.Update

/-!
# Stores

A store holds one tree per target and answers two requests: Get reads a node of a tree, and Set writes leaves and
removes nodes.  A store is a machine: each answer depends on its state and leaves a new state behind.
-/

namespace ConfigMigration

/-- The text of a tree as it was read from a target. -/
structure Snapshot where
  /-- The target. -/
  target : String
  /-- The JSON text of the tree. -/
  text : String
deriving DecidableEq, Inhabited, Repr

/-- The snapshot of a tree. -/
def Snapshot.ofJson (target : String) (tree : Json) : Snapshot := ⟨target, tree.render⟩

/-- A request to change the tree of a target. -/
structure SetRequest where
  /-- The target. -/
  target : String
  /-- The path in front of every path of the request. -/
  base : Option Path := none
  /-- The leaves to write. -/
  updates : List Update := []
  /-- The nodes to remove. -/
  deletes : List Path := []
deriving DecidableEq

namespace SetRequest

/-- Whether the request asks for nothing. -/
def isEmpty (r : SetRequest) : Bool := r.updates.isEmpty && r.deletes.isEmpty

/-- The path in front of every path of the request; the root where there is none. -/
def basePath (r : SetRequest) : Path := r.base.getD .root

/-- The path in front of every path of the request, with the target of the request. -/
def scopedBase (r : SetRequest) : Path := r.basePath.withTarget r.target

end SetRequest

/-- The acknowledgement of a Set. -/
structure SetResponse where
  /-- The target. -/
  target : String
  /-- The time stamp that the store gave to the change. -/
  timestamp : Int
deriving DecidableEq, Repr

/-- The requests that a store answers. -/
inductive Operation where
  /-- Read a node. -/
  | get
  /-- Change a tree. -/
  | set
deriving DecidableEq, Repr

/-- The name of an operation. -/
def Operation.name : Operation → String
  | get => "get"
  | set => "set"

/-- Why a store does not do what it is asked for. -/
inductive StoreError where
  /-- The request does not reach the store. -/
  | transport (address : String)
  /-- The store answers with a failure. -/
  | rejected (operation : Operation) (target : String) (status : Nat) (message : String)
  /-- The answer breaks off. -/
  | brokenOff (operation : Operation)
  /-- The answer has another shape than expected. -/
  | decode (operation : Operation) (fault : Json.Fault)
  /-- The answer holds no tree. -/
  | emptyResponse (target : String)
  /-- The answer holds something that is no tree. -/
  | malformedTree (target : String) (reason : String)
  /-- The store does not know the target. -/
  | unknownTarget (target : String)
  /-- The path leads to no node that can be written. -/
  | invalidPath (path : String) (reason : String)
  /-- The store cannot be reached for the target. -/
  | unavailable (target : String)
  /-- The credentials cannot be used. -/
  | credentials
  /-- The settings cannot be used. -/
  | settings (error : SettingsError)
deriving DecidableEq, Repr

namespace StoreError

/-- The message of an error. -/
def message : StoreError → String
  | transport address => "transport error talking to " ++ address ++ ": <http>"
  | rejected operation target status message =>
    operation.name ++ " on target '" ++ target ++ "' rejected (" ++ toString status ++ "): " ++ message
  | brokenOff operation => "malformed " ++ operation.name ++ " response: <http>"
  | decode operation fault => "malformed " ++ operation.name ++ " response: " ++ fault.text
  | emptyResponse target => "get on target '" ++ target ++ "' returned no data"
  | malformedTree target reason => "get on target '" ++ target ++ "' returned a malformed tree: " ++ reason
  | unknownTarget target => "unknown target: " ++ target
  | invalidPath path reason => "invalid path " ++ path ++ ": " ++ reason
  | unavailable target => "store unavailable for target '" ++ target ++ "'"
  | credentials => "invalid TLS credentials: <tls>"
  | settings error => "configuration error: " ++ error.message

/-- The messages of the causes of an error, the nearest one first. -/
def causes : StoreError → List String
  | transport _ | brokenOff _ => ["<http>"]
  | decode _ fault => [fault.text]
  | credentials => ["<tls>"]
  | settings error => error.message :: error.causes
  | _ => []

/-- Whether the failure came about before the store was reached. -/
def isLocal : StoreError → Bool
  | settings _ | credentials => true
  | _ => false

end StoreError

/-- The answer of a store: a result, the state behind it, and what was reported on the way. -/
structure Reply (σ α : Type) where
  /-- The result. -/
  result : Except StoreError α
  /-- The state behind the answer. -/
  state : σ
  /-- The events. -/
  events : List Event := []

/-- Machines that answer the requests to a store. -/
class Store (σ : Type) where
  /-- Reads the node at a path of the tree of a target. -/
  get : σ → String → Path → Reply σ Snapshot
  /-- Changes the tree of a target. -/
  set : σ → SetRequest → Reply σ SetResponse

end ConfigMigration

import ConfigMigration.Gateway.Credentials
import ConfigMigration.Gateway.Message
import ConfigMigration.Gateway.Redirection

/-!
# The store behind a gateway

Each request to the store is one message to a gateway, to the place of its operation below the address of the
gateway.
-/

namespace ConfigMigration

/-- A store behind a gateway on a network. -/
structure GatewayStore (ν : Type) where
  /-- The address of the gateway, without a slash at the end. -/
  address : String
  /-- The network. -/
  network : ν

namespace GatewayStore

variable {ν α : Type}

/-- An address without slashes at its end. -/
def trimSlashes (address : String) : String :=
  String.ofList (address.toList.reverse.dropWhile (· = '/')).reverse

/-- The store that settings describe. -/
def ofSettings (files : Files) (network : ν) (s : StoreSettings) : Logged (Except StoreError (GatewayStore ν)) := do
  match s.validate.mapError .settings >>= fun _ => Credentials.check files s.tls with
  | .error e => return .error e
  | .ok _ =>
    let address := trimSlashes s.address
    Logged.log { level := .debug, component := .gatewayStore, message := "store client ready",
                 fields := [("address", .display address), ("tls", .flag !s.tls.disabled)] }
    return .ok { address, network }

/-- The summary of a store. -/
def summary (g : GatewayStore ν) : String :=
  "HttpConfigStore \x7b address: " ++ Text.quoted g.address ++ ", .. \x7d"

/-- The address of an operation. -/
def endpoint (g : GatewayStore ν) (operation : Operation) : String :=
  g.address ++ "/gnmi/" ++ operation.name

/-- What an answer to a message about a target holds. -/
def readAnswer (g : GatewayStore ν) (operation : Operation) (target : String) (d : Json.Decoder α) :
    Option GatewayAnswer → Except StoreError α
  | none => .error (.transport g.address)
  | some answer =>
    if !answer.isSuccess then .error (.rejected operation target answer.status (answer.body.getD ""))
    else
      match answer.body with
      | none => .error (.brokenOff operation)
      | some text => (d.decode text).mapError (.decode operation)

/-- Sends a message about a target and reads the answer. -/
def send [Network ν] (g : GatewayStore ν) (operation : Operation) (target : String) (message : Json)
    (d : Json.Decoder α) : Except StoreError α × GatewayStore ν :=
  let (answer, network) := Network.request g.network ⟨g.endpoint operation, some message⟩
  (g.readAnswer operation target d answer, { g with network })

/-- The snapshot of the first tree among the values of an answer. -/
def snapshotOf (target : String) (values : List (Option Json)) : Except StoreError Snapshot :=
  match values.findSome? id with
  | none => .error (.emptyResponse target)
  | some value =>
    match Message.treeOf value with
    | .error reason => .error (.malformedTree target reason)
    | .ok tree => .ok (.ofJson target tree)

/-- Answers a Get. -/
def get [Network ν] (g : GatewayStore ν) (target : String) (path : Path) : Reply (GatewayStore ν) Snapshot :=
  let (values, g) := g.send .get target (Message.ofGet target path) Message.valuesDecoder
  { result := values >>= snapshotOf target
    state := g
    events := [{ level := .debug, component := .gatewayStore, message := "gnmi get",
                 fields := [("target_name", .display target), ("path", .display path.text)] }] }

/-- Answers a Set. -/
def set [Network ν] (g : GatewayStore ν) (r : SetRequest) : Reply (GatewayStore ν) SetResponse :=
  let (timestamp, g) := g.send .set r.target (Message.ofSet r) Message.timestampDecoder
  { result := timestamp.map fun t => ⟨r.target, t.toInt⟩
    state := g
    events := [{ level := .debug, component := .gatewayStore, message := "gnmi set",
                 fields := [("target_name", .display r.target), ("updates", .count r.updates.length),
                   ("deletes", .count r.deletes.length)] }] }

instance [Network ν] : Store (GatewayStore ν) := ⟨get, set⟩

end GatewayStore

end ConfigMigration

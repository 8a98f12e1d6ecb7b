import ConfigMigration.Gateway.Address
import ConfigMigration.Gateway.Answer
import ConfigMigration.Json.Printer

/-!
# Networks

A network carries a request to a web address and brings an answer back, or does not.  `CannedNetwork` is a network
held as a value, in which one gateway answers from a list.
-/

namespace ConfigMigration

/-- A request to a gateway. -/
structure GatewayRequest where
  /-- The text of the address. -/
  address : String
  /-- The message: a request without one only asks for what stands at the address. -/
  message : Option Json

/-- Machines that carry requests. -/
class Network (ν : Type) where
  /-- Carries a request: the answer, if there is one, and the network behind it. -/
  exchange : ν → GatewayRequest → Option GatewayAnswer × ν

/-- A network in which nobody answers. -/
structure Unplugged where

instance : Network Unplugged := ⟨fun n _ => (none, n)⟩

/-- A network in which one gateway answers. -/
structure CannedNetwork where
  /-- The host of the gateway. -/
  host : String := "127.0.0.1"
  /-- The port of the gateway. -/
  portNumber : Nat := 5150
  /-- The answers still to come. -/
  answers : List GatewayAnswer := []
  /-- The requests that the gateway received: what it was asked for, and the message. -/
  received : List (String × Option Json) := []

namespace CannedNetwork

/-- The answer of a gateway that has no more. -/
def exhausted : GatewayAnswer := { status := 500, body := some "exhausted" }

/-- Carries a request, which arrives if it is for the gateway and is not encrypted. -/
def exchange (n : CannedNetwork) (r : GatewayRequest) : Option GatewayAnswer × CannedNetwork :=
  match WebAddress.parse? r.address with
  | none => (none, n)
  | some a =>
    if a.encrypted || a.host ≠ n.host || a.portNumber ≠ n.portNumber then (none, n)
    else
      ((n.answers.headD exhausted).received?,
        { n with answers := n.answers.drop 1, received := n.received ++ [(a.resource, r.message)] })

instance : Network CannedNetwork := ⟨exchange⟩

end CannedNetwork

end ConfigMigration

import ConfigMigration.CommandLine.Invocation
import ConfigMigration.CommandLine.Report
import ConfigMigration.DeviceGroup.Step
import ConfigMigration.Gateway.Client

/-!
# Execution of commands

What a command prints, how it ends, what it reports on the way, and what it does to the network.
-/

namespace ConfigMigration.CommandLine

/-- The outcome of a command. -/
structure Execution (ν : Type) where
  /-- What the command fails with, or the lines that it prints. -/
  result : Except Failure (List String)
  /-- What is reported. -/
  events : List Event
  /-- The network behind the command. -/
  network : ν

namespace Execution

variable {ν : Type} [Network ν]

/-- The store that flags and settings describe. -/
def openStore (files : Files) (network : ν) (flags : StoreFlags) : Logged (Except Failure (GatewayStore ν)) := do
  match ← flags.resolve files with
  | .error e => return .error e
  | .ok settings => return (← GatewayStore.ofSettings files network settings).mapError .client

/-- Migrates with the shipped steps. -/
def migrate (files : Files) (network : ν) (r : MigrateRequest) (flags : StoreFlags) : Execution ν :=
  let opened := openStore files network flags
  match opened.value with
  | .error e => ⟨.error e, opened.events, network⟩
  | .ok store =>
    let o := CommandLine.migrate DeviceGroup.shippedSteps r store
    { result := (o.result.map (migrationLines r)).mapError (.migration r)
      events := opened.events ++ o.events
      network := o.state.network }

/-- The lines about the chain between two versions. -/
def chainReport (start goal : Version) : Except Failure (List String) :=
  (chainLines DeviceGroup.shippedSteps start goal).map fun lines =>
    if lines.isEmpty then ["No steps needed: " ++ start.label ++ " -> " ++ goal.label] else lines

/-- Carries out a command. -/
def run (files : Files) (network : ν) : Command → Execution ν
  | .steps => ⟨.ok (stepLines DeviceGroup.shippedSteps), [], network⟩
  | .chain start goal => ⟨chainReport start goal, [], network⟩
  | .migrate r flags => migrate files network r flags

/-- The files that a command reads, as far as the files that it reads first tell. -/
def filesRead (files : Files) : Command → List String
  | .migrate _ flags =>
    flags.config.toList ++
      match (flags.resolve files).value with
      | .error _ => []
      | .ok s => if s.tls.disabled then [] else [s.tls.caCert, s.tls.clientCert, s.tls.clientKey].filterMap id
  | _ => []

/-- The lines that are printed. -/
def lines (x : Execution ν) : List String :=
  match x.result with
  | .ok lines => lines
  | .error _ => []

end Execution

end ConfigMigration.CommandLine

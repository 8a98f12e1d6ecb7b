import ConfigMigration.Migration.Step

/-!
# Chains of steps

Steps are registered in order, and the chain between two versions is found in one pass over them.  A step is taken
as soon as it leaves the version reached so far; the pass ends where the wanted version is reached, and it never
goes back.  So each step is taken at most once, and of several steps that could go on the first one registered is
taken.
-/

namespace ConfigMigration

/-- A step and its place among the registered steps. -/
structure Registered where
  /-- The number of steps registered before it. -/
  position : Nat
  /-- The step. -/
  step : Step
deriving Inhabited

/-- No chain leads to a version. -/
structure ChainNotFound where
  /-- The version that is not reached. -/
  version : Version
deriving DecidableEq, Repr

/-- The message of the error. -/
def ChainNotFound.message (e : ChainNotFound) : String :=
  "no migration chain found: version " ++ e.version.label ++ " is not reachable"

namespace Chain

/-- Steps with their places, where `position` other steps stand before the first one. -/
def register (position : Nat) : List Step → List Registered
  | [] => []
  | s :: steps => ⟨position, s⟩ :: register (position + 1) steps

/-- The steps that one pass takes on the way from `current` to `goal`. -/
def scan (goal : Version) (current : Version) : List Registered → List Registered
  | [] => []
  | r :: rest =>
    if current = goal then []
    else if r.step.fromVersion = current then r :: scan goal r.step.toVersion rest
    else scan goal current rest

/-- The version reached from `start` behind a chain. -/
def reached (start : Version) (chain : List Registered) : Version :=
  (chain.getLast?.map (·.step.toVersion)).getD start

/-- The chain from one version to another. -/
def resolve (steps : List Step) (start goal : Version) : Except ChainNotFound (List Registered) :=
  if start = goal then .ok []
  else
    let chain := scan goal start (register 0 steps)
    if chain.isEmpty then .error ⟨start⟩
    else if reached start chain = goal then .ok chain
    else .error ⟨goal⟩

/-- The first step that leads from one version to another. -/
def find? (steps : List Step) (start goal : Version) : Option Registered :=
  (register 0 steps).find? fun r => r.step.Connects start goal

/-- Reports the registration of steps behind those of `registered`. -/
def logRegistration (registered : List Step) : List Step → Logged Unit
  | [] => pure ()
  | s :: steps => do
    if registered.any fun r => r.Connects s.fromVersion s.toVersion then
      Logged.log { level := .warn, component := .migrator, message := "duplicate migration step registered",
                   fields := [("from", .display s.fromVersion.label), ("to", .display s.toVersion.label)] }
    Logged.log { level := .debug, component := .migrator, message := "registered migration step",
                 fields := [("step", .display s.text)] }
    logRegistration (registered ++ [s]) steps

/-- The summary of a list of registered steps. -/
def summary (steps : List Step) : String :=
  "Migrator \x7b steps: [" ++ ", ".intercalate (steps.map Step.summary) ++ "], .. \x7d"

end Chain

end ConfigMigration

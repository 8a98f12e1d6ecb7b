import ConfigMigration.CommandLine.Failure
import ConfigMigration.Migration.Run

/-!
# Reports of commands

The lines that commands print about steps, chains and migrations.
-/

namespace ConfigMigration.CommandLine

/-- One line for each step. -/
def stepLines (steps : List Step) : List String :=
  steps.map fun s => s.text ++ "  " ++ s.transform.description

/-- Lines for the steps of a chain, numbered from `number` on. -/
def numberedLines (number : Nat) : List Registered → List String
  | [] => []
  | r :: chain => (toString number ++ ". " ++ r.step.text) :: numberedLines (number + 1) chain

/-- One line for each step of the chain between two versions. -/
def chainLines (steps : List Step) (start goal : Version) : Except Failure (List String) :=
  match Chain.resolve steps start goal with
  | .error e => .error (.chainNotFound e)
  | .ok chain => .ok (numberedLines 1 chain)

/-- The lines about a finished migration. -/
def migrationLines (r : MigrateRequest) (report : Report) : List String :=
  if report.isNoop then ["Nothing to migrate: both targets are at " ++ r.start.label]
  else
    ("Migrated '" ++ r.targets.source ++ "' -> '" ++ r.targets.destination ++ "'") ::
      (report.steps.map fun step => "  " ++ step.1.label ++ " -> " ++ step.2.label) ++
      ["  Set calls: " ++ toString report.tally.setCalls ++ ", updates: " ++ toString report.tally.updates ++
        ", deletes: " ++ toString report.tally.deletes]

/-- Registers steps and runs a migration with them. -/
def migrate {σ : Type} [Store σ] (steps : List Step) (r : MigrateRequest) : Run σ Report := do
  Run.lift (Chain.logRegistration [] steps)
  Migrator.migrate steps r.targets r.start r.goal

end ConfigMigration.CommandLine

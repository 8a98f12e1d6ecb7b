import ConfigMigration.Migration.Scripted
import ConfigMigration.Proofs.Migration.Sequence
import ConfigMigration.Store.Memory

/-!
# Migrations one after the other

Nothing but the store is carried over from one step of a chain to the next, and reports add up.  So the run of a chain
may be cut anywhere (`runChain_append`), and a migration over a version in between does what the direct one does, up
to the events that are reported (`migrateVia_agrees_migrate`).
-/

namespace ConfigMigration

/-- The report of one migration behind another. -/
instance : Append Report where
  append first second := { steps := first.steps ++ second.steps, tally := first.tally + second.tally }

namespace Report

@[simp] theorem steps_append (first second : Report) : (first ++ second).steps = first.steps ++ second.steps := rfl

@[simp] theorem tally_append (first second : Report) : (first ++ second).tally = first.tally + second.tally := rfl

@[simp] theorem empty_append (r : Report) : ({} : Report) ++ r = r := by
  cases r
  exact congrArg (Report.mk _) (Tally.zero_add _)

end Report

namespace Migrator

variable {σ : Type} [Store σ]

theorem runChain_append (targets : Targets) (front back : List Registered) :
    (runChain targets (front ++ back) : Run σ Report) = do
      let first ← runChain targets front
      let second ← runChain targets back
      return first ++ second := by
  induction front with
  | nil =>
    rw [List.nil_append, runChain]
    simp only [pure_bind, Report.empty_append, bind_pure]
  | cons r front ih =>
    -- the report of the first step is put in front of the others before or behind the cut
    have hreport : ∀ (tally : Tally) (first second : Report),
        ({ steps := r.step.versions :: (first ++ second).steps, tally := tally + (first ++ second).tally } : Report) =
          { steps := r.step.versions :: first.steps, tally := tally + first.tally } ++ second := by
      intro tally first second
      rw [Report.steps_append, Report.tally_append, ← Tally.add_assoc]
      rfl
    rw [List.cons_append, runChain, runChain, ih]
    simp only [bind_assoc, pure_bind, hreport]

/-- A migration over a version in between.  The second half runs only if the first one succeeds. -/
def migrateVia (steps : List Step) (targets : Targets) (start middle goal : Version) : Run σ Report := do
  let first ← migrate steps targets start middle
  let second ← migrate steps targets middle goal
  return first ++ second

/-- Where the two chains make up the direct one, the migration over a version in between has the same result and makes
the same calls, and leaves the store in the same state. -/
theorem migrateVia_agrees_migrate {steps : List Step} {start middle goal : Version} {front back : List Registered}
    (hfront : Chain.resolve steps start middle = .ok front) (hback : Chain.resolve steps middle goal = .ok back)
    (hchain : Chain.resolve steps start goal = .ok (front ++ back)) (targets : Targets) (s : σ) :
    (migrateVia steps targets start middle goal s).Agrees (migrate steps targets start goal s) := by
  have hvia : (migrateVia steps targets start middle goal s).Agrees
      ((runChain targets front >>= fun first =>
        runChain targets back >>= fun second => return first ++ second) s) := by
    refine Run.agrees_bind (migrate_agrees_runChain hfront targets s) ?_
    intro first _
    exact Run.agrees_bind (migrate_agrees_runChain hback targets _) fun _ _ => .refl _
  have hdirect := migrate_agrees_runChain hchain targets s
  rw [runChain_append] at hdirect
  exact hvia.trans hdirect.symm

/-! ### A migration that breaks off behind the version in between -/

/-- A step that writes a leaf, and one that writes another leaf and removes the first one. -/
def relaySteps : List Step :=
  [.scripted "1" "2" (.returning [.ofUpdate "/" "a" (.string "x")]),
    .scripted "2" "3" (.returning [.ofMove "/" "b" (.string "y") "/a"])]

/-- A store whose second Set fails. -/
def relayStore : MemoryStore :=
  ((MemoryStore.empty.insertTree "v1" .emptyObject).insertTree "v2" .emptyObject).failSet 1

theorem relaySteps_agrees :
    (migrateVia relaySteps ⟨"v1", "v2"⟩ ⟨"1"⟩ ⟨"2"⟩ ⟨"3"⟩ relayStore).Agrees
      (migrate relaySteps ⟨"v1", "v2"⟩ ⟨"1"⟩ ⟨"3"⟩ relayStore) := by
  have hfront : Chain.resolve relaySteps ⟨"1"⟩ ⟨"2"⟩ = .ok ((Chain.register 0 relaySteps).take 1) := by rfl
  have hback : Chain.resolve relaySteps ⟨"2"⟩ ⟨"3"⟩ = .ok ((Chain.register 0 relaySteps).drop 1) := by rfl
  exact migrateVia_agrees_migrate hfront hback (by rfl) _ _

end Migrator

end ConfigMigration

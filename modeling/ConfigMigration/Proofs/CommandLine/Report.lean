import ConfigMigration.CommandLine.Report
import ConfigMigration.Proofs.Migration.Accounting
import ConfigMigration.Proofs.Migration.Reachability

/-!
# The printed chain

The chain between two versions can be printed without running it.  What is printed is what would run: behind a
migration that succeeds, the lines belong to the entries of its report one by one, each of them shows the registered
step whose transform was asked in its turn, and where nothing can be printed the migration fails for the same reason
before it touches the store (`printed_chain_runs`).
-/

namespace ConfigMigration

/-- The place of the step whose transform is called. -/
def Entry.position? : Entry → Option Nat
  | transform position _ _ => some position
  | _ => none

/-- The steps of a chain stand at their places among the registered steps. -/
theorem Chain.getElem?_of_resolve {steps : List Step} {start goal : Version} {chain : List Registered}
    (h : resolve steps start goal = .ok chain) {r : Registered} (hr : r ∈ chain) :
    steps[r.position]? = some r.step := by
  obtain ⟨rfl, -⟩ := resolve_eq_ok_iff_taken.mp h
  obtain ⟨i, hi⟩ := List.mem_iff_getElem?.mp ((scan_sublist goal start (register 0 steps)).subset hr)
  rw [getElem?_register, Option.map_eq_some_iff] at hi
  obtain ⟨s, hs, rfl⟩ := hi
  rwa [Nat.zero_add]

/-- In a schedule the transforms are those of the chain, in its order. -/
theorem Schedule.positions {targets : Targets} {chain : List Registered} {full : List Exchange}
    (h : Schedule targets chain full) :
    (full.map fun x => x.call.entry).filterMap Entry.position? = chain.map Registered.position := by
  induction h with
  | nil => rfl
  | @step r chain source destination actions sets rest _ _ ih =>
    have hsets : ((Exchange.acknowledged sets).map fun x => x.call.entry).filterMap Entry.position? = [] := by
      rw [List.filterMap_eq_nil_iff]
      intro entry hentry
      obtain ⟨x, hx, rfl⟩ := List.mem_map.mp hentry
      obtain ⟨a, -, rfl⟩ := List.mem_map.mp hx
      rfl
    rw [List.map_append, List.map_append, List.filterMap_append, List.filterMap_append, hsets, ih]
    rfl

namespace CommandLine

theorem getElem?_numberedLines (number : Nat) (chain : List Registered) (i : Nat) :
    (numberedLines number chain)[i]? = chain[i]?.map fun r => toString (number + i) ++ ". " ++ r.step.text := by
  induction chain generalizing number i with
  | nil => rfl
  | cons r chain ih =>
    cases i with
    | zero => rfl
    | succ i =>
      rw [numberedLines, List.getElem?_cons_succ, List.getElem?_cons_succ, ih, Nat.add_right_comm, Nat.add_assoc]

theorem length_numberedLines (number : Nat) (chain : List Registered) :
    (numberedLines number chain).length = chain.length := by
  induction chain generalizing number with
  | nil => rfl
  | cons r chain ih => rw [numberedLines, List.length_cons, List.length_cons, ih]

variable {σ : Type} [Store σ]

/-- The registration of the steps does not matter for a run. -/
theorem migrate_agrees (steps : List Step) (r : MigrateRequest) (s : σ) :
    (migrate steps r s).Agrees (Migrator.migrate steps r.targets r.start r.goal s) := by
  have hcalls : (Run.lift (Chain.logRegistration [] steps) s : Outcome σ Unit).calls = [] := filter_map_event _
  refine ⟨rfl, rfl, ?_⟩
  exact (Run.calls_bind (Run.lift (Chain.logRegistration [] steps)) _ s).trans (congrArg (· ++ _) hcalls)

/-- What is printed is what runs.  Behind a migration that succeeds there is one line for each entry of the report: it
shows its number and the registered step with the versions of the entry, and this step's transform is the one that was
called in its turn.  Where nothing can be printed, the migration fails with the same version missing, and neither
calls the store nor changes it. -/
theorem printed_chain_runs (steps : List Step) (r : MigrateRequest) (s : σ) :
    (∀ report, (migrate steps r s).result = .ok report →
      ∃ lines, chainLines steps r.start r.goal = .ok lines ∧ lines.length = report.steps.length ∧
        ∀ i line, lines[i]? = some line →
          ∃ position step, steps[position]? = some step ∧ report.steps[i]? = some step.versions ∧
            line = toString (i + 1) ++ ". " ++ step.text ∧
            ((migrate steps r s).calls.filterMap Entry.position?)[i]? = some position) ∧
    ∀ failure, chainLines steps r.start r.goal = .error failure →
      ∃ missing, failure = .chainNotFound missing ∧
        (migrate steps r s).result = .error (.chainNotFound missing) ∧ (migrate steps r s).state = s ∧
        (migrate steps r s).calls = [] := by
  have hagrees := migrate_agrees steps r s
  rw [hagrees.result, hagrees.state, hagrees.calls]
  constructor
  · intro report hreport
    obtain ⟨trace, htrace, -, hreports⟩ := Migrator.migrate_reports steps r.targets r.start r.goal s
    obtain ⟨chain, hchain, hschedule, rfl⟩ := hreports report hreport
    refine ⟨numberedLines 1 chain, by rw [chainLines, hchain], ?_, ?_⟩
    · rw [length_numberedLines, List.length_map]
    · intro i line hline
      rw [getElem?_numberedLines, Option.map_eq_some_iff] at hline
      obtain ⟨x, hx, rfl⟩ := hline
      refine ⟨x.position, x.step, Chain.getElem?_of_resolve hchain (List.mem_of_getElem? hx), ?_, ?_, ?_⟩
      · rw [List.getElem?_map, hx]
        rfl
      · rw [Nat.add_comm]
      · rw [htrace.calls, hschedule.positions, List.getElem?_map, hx]
        rfl
  · intro failure hfailure
    cases hresolve : Chain.resolve steps r.start r.goal with
    | ok chain =>
      rw [chainLines, hresolve] at hfailure
      cases hfailure
    | error missing =>
      rw [chainLines, hresolve, Except.error.injEq] at hfailure
      rw [Migrator.migrate_of_resolve_eq_error hresolve]
      exact ⟨missing, hfailure.symm, rfl, rfl, rfl⟩

end CommandLine

end ConfigMigration

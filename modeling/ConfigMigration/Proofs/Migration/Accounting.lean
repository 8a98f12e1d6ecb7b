import ConfigMigration.Migration.Scripted
import ConfigMigration.Proofs.Migration.Schedule
import ConfigMigration.Proofs.Store.Replay
import Mathlib.Algebra.GroupWithZero.Nat

/-!
# What a report accounts for

The report of a migration is put together from the tallies of its steps, and the store in memory keeps a record of the
requests that it receives.  The two agree: the report counts the requests that the run has added to the record, with
their updates and deletes, and the actions that the transforms have returned (`report_accounts_for_record`).
-/

namespace ConfigMigration

/-- Whether a request holds updates alone, or deletes alone. -/
def SetRequest.IsHalf (q : SetRequest) : Prop :=
  (q.updates ≠ [] ∧ q.deletes = []) ∨ (q.updates = [] ∧ q.deletes ≠ [])

theorem Action.isHalf_of_mem_due {targets : Targets} {a : Action} {q : SetRequest} (h : q ∈ a.due targets) :
    q.IsHalf := by
  unfold due at h
  rcases List.mem_append.mp h with h | h
  · split at h
    · cases h
    · rename_i hupdates
      rw [List.mem_singleton.mp h]
      exact .inl ⟨hupdates, rfl⟩
  · split at h
    · cases h
    · rename_i hdeletes
      rw [List.mem_singleton.mp h]
      exact .inr ⟨rfl, hdeletes⟩

/-! ### Requests and actions of a trace -/

/-- The Set request of a call. -/
def Call.request? : Call → Option SetRequest
  | set q => some q
  | _ => none

namespace Exchange

/-- The Set request of an exchange, acknowledged or not. -/
def request? (x : Exchange) : Option SetRequest := x.call.request?

/-- The number of actions that a transform returns in an exchange. -/
def actionCount : Exchange → Nat
  | transform _ _ _ (.ok actions) => actions.length
  | _ => 0

open Exchange (acknowledged)

theorem filterMap_request?_acknowledged (sets : List (SetRequest × SetResponse)) :
    (acknowledged sets).filterMap request? = sets.map Prod.fst := by
  induction sets with
  | nil => rfl
  | cons a sets ih => exact congrArg (a.1 :: ·) ih

end Exchange

/-- The actions that are carried out are those that transforms return. -/
theorem actions_tallyOf (trace : List Exchange) :
    (tallyOf trace).actions = (trace.map Exchange.actionCount).sum := by
  induction trace with
  | nil => rfl
  | cons x trace ih =>
    have hx : x.tally.actions = x.actionCount := by
      cases x with
      | get target path answer => rfl
      | transform r source destination answer => cases answer <;> rfl
      | set q answer => cases answer <;> rfl
    rw [List.map_cons, List.sum_cons, ← ih, ← hx]
    rfl

/-- An exchange that does not fail carries out its request, if it has one. -/
theorem Exchange.setCalls_tally {x : Exchange} (h : x.failure? = none) :
    x.tally.setCalls = x.request?.toList.length ∧
      x.tally.updates = (x.request?.toList.map fun q => q.updates.length).sum ∧
      x.tally.deletes = (x.request?.toList.map fun q => q.deletes.length).sum := by
  cases x with
  | get target path answer => exact ⟨rfl, rfl, rfl⟩
  | transform r source destination answer => cases answer <;> exact ⟨rfl, rfl, rfl⟩
  | set q answer =>
    cases answer with
    | error e => cases h
    | ok response => exact ⟨rfl, (List.sum_singleton).symm, (List.sum_singleton).symm⟩

/-- Where nothing fails, every request is carried out. -/
theorem setCalls_tallyOf {trace : List Exchange} (h : ∀ x ∈ trace, x.failure? = none) :
    (tallyOf trace).setCalls = (trace.filterMap Exchange.request?).length ∧
      (tallyOf trace).updates = ((trace.filterMap Exchange.request?).map fun q => q.updates.length).sum ∧
      (tallyOf trace).deletes = ((trace.filterMap Exchange.request?).map fun q => q.deletes.length).sum := by
  induction trace with
  | nil => exact ⟨rfl, rfl, rfl⟩
  | cons x trace ih =>
    rw [List.forall_mem_cons] at h
    obtain ⟨hcalls, hupdates, hdeletes⟩ := Exchange.setCalls_tally h.1
    obtain ⟨hcalls', hupdates', hdeletes'⟩ := ih h.2
    have hrequests : (x :: trace).filterMap Exchange.request? =
        x.request?.toList ++ trace.filterMap Exchange.request? := by
      rw [List.filterMap_cons]
      cases x.request? <;> rfl
    rw [hrequests, List.length_append, List.map_append, List.map_append, List.sum_append, List.sum_append, ← hcalls,
      ← hupdates, ← hdeletes, ← hcalls', ← hupdates', ← hdeletes']
    exact ⟨rfl, rfl, rfl⟩

/-- In a schedule every request is one half of an action. -/
theorem Schedule.isHalf {targets : Targets} {chain : List Registered} {full : List Exchange}
    (h : Schedule targets chain full) : ∀ q ∈ full.filterMap Exchange.request?, q.IsHalf := by
  induction h with
  | nil => simp
  | @step r chain source destination actions sets rest hdue _ ih =>
    rw [List.filterMap_append, List.filterMap_append, Exchange.filterMap_request?_acknowledged, hdue]
    intro q hq
    rcases List.mem_append.mp hq with hq | hq
    · obtain ⟨a, -, ha⟩ := List.mem_flatMap.mp hq
      exact Action.isHalf_of_mem_due ha
    · exact ih q hq

/-- The record of a store in memory behind a conversation. -/
theorem MemoryStore.sets_of_conversation {targets : Targets} {s t : MemoryStore} {trace : List Exchange}
    (h : Conversation targets s trace t) : t.sets = s.sets ++ trace.filterMap Exchange.request? := by
  induction h with
  | nil s => exact (List.append_nil _).symm
  | @cons s t u x xs head _ ih =>
    rw [ih]
    cases head with
    | get target path => rfl
    | transform r source destination => rfl
    | set q =>
      have hset : (s.set q).state.sets = s.sets ++ [q] := by
        rcases set_cases s q with ⟨e, -, -, hstate⟩ | ⟨tree, -, -, -, hstate⟩ <;> rw [hstate]
      change (s.set q).state.sets ++ _ = _
      rw [hset, List.append_assoc]
      rfl

namespace Migrator

variable {σ : Type} [Store σ]

/-- Whatever the store answers, a migration sends halves of actions, and its report names the steps of the chain and
counts what was carried out. -/
theorem migrate_reports (steps : List Step) (targets : Targets) (start goal : Version) (s : σ) :
    ∃ trace, HasTrace targets (migrate steps targets start goal) s trace (migrate steps targets start goal s).result ∧
      (∀ q ∈ trace.filterMap Exchange.request?, q.IsHalf) ∧
      ∀ report, (migrate steps targets start goal s).result = .ok report →
        ∃ chain, Chain.resolve steps start goal = .ok chain ∧ Schedule targets chain trace ∧
          report = ⟨chain.map fun r => r.step.versions, tallyOf trace⟩ := by
  cases hresolve : Chain.resolve steps start goal with
  | error e =>
    rw [migrate_of_resolve_eq_error hresolve targets s]
    refine ⟨[], ⟨?_, ?_, ?_⟩, by simp, by simp⟩ <;> rw [migrate_of_resolve_eq_error hresolve targets s]
    · rfl
    · exact .nil s
  | ok chain =>
    have hrun : CarriesOut targets (migrate steps targets start goal) _ :=
      (runChain_reports chain).of_agrees fun s : σ => migrate_agrees_runChain hresolve targets s
    rcases hrun s with ⟨trace, report, htrace, hschedule, hreport⟩ |
      ⟨done, failed, e, htrace, -, report, expected, rest, ⟨hschedule, -⟩, hcall⟩
    · refine ⟨trace, by rwa [htrace.result], hschedule.isHalf, ?_⟩
      intro other hother
      rw [htrace.result, Except.ok.injEq] at hother
      exact ⟨chain, rfl, hschedule, hother ▸ hreport⟩
    · refine ⟨done ++ [failed], by rwa [htrace.result], fun q hq => ?_, ?_⟩
      · -- the request that fails is the one that is due in its place
        have hrequest : failed.request? = expected.request? := congrArg Call.request? hcall.symm
        have hsent : (done ++ [failed]).filterMap Exchange.request? =
            (done ++ [expected]).filterMap Exchange.request? := by
          rw [List.filterMap_append, List.filterMap_append, List.filterMap_cons, List.filterMap_cons, hrequest]
        have hdue : done ++ [expected] <+: done ++ expected :: rest := ⟨rest, List.append_assoc ..⟩
        rw [hsent] at hq
        exact hschedule.isHalf q ((hdue.filterMap Exchange.request?).subset hq)
      · intro other hother
        rw [htrace.result] at hother
        cases hother

/-- A run on a store in memory adds the requests that it sends to the record of the store, each of them with updates
alone or with deletes alone.  The report of a run that succeeds names the steps of the chain in order and counts these
requests, their updates and their deletes, and the actions that the transforms returned, also those that change
nothing. -/
theorem report_accounts_for_record (steps : List Step) (targets : Targets) (start goal : Version) (s : MemoryStore) :
    ∃ trace sent,
      HasTrace targets (migrate steps targets start goal) s trace (migrate steps targets start goal s).result ∧
      (migrate steps targets start goal s).state.sets = s.sets ++ sent ∧
      (∀ q ∈ sent, q.IsHalf) ∧
      ∀ report, (migrate steps targets start goal s).result = .ok report →
        (∃ chain, Chain.resolve steps start goal = .ok chain ∧
          report.steps = chain.map fun r => r.step.versions) ∧
        report.tally.setCalls = sent.length ∧
        report.tally.updates = (sent.map fun q => q.updates.length).sum ∧
        report.tally.deletes = (sent.map fun q => q.deletes.length).sum ∧
        report.tally.actions = (trace.map Exchange.actionCount).sum := by
  obtain ⟨trace, htrace, hhalves, hreports⟩ := migrate_reports steps targets start goal s
  refine ⟨trace, trace.filterMap Exchange.request?, htrace, MemoryStore.sets_of_conversation htrace.conversation,
    hhalves, ?_⟩
  intro report hreport
  obtain ⟨chain, hchain, hschedule, rfl⟩ := hreports report hreport
  refine ⟨⟨chain, hchain, rfl⟩, ?_⟩
  obtain ⟨hcalls, hupdates, hdeletes⟩ := setCalls_tallyOf hschedule.failure?_eq_none
  exact ⟨hcalls, hupdates, hdeletes, actions_tallyOf trace⟩

/-- An action that changes nothing is counted, but nothing is sent for it. -/
example :
    (migrate [.scripted "1" "2" (.returning [{}, .ofUpdate "/" "a" (.string "x")])] ⟨"v1", "v2"⟩ ⟨"1"⟩ ⟨"2"⟩
      ((MemoryStore.empty.insertTree "v1" .emptyObject).insertTree "v2" .emptyObject)).result =
      .ok ⟨[(⟨"1"⟩, ⟨"2"⟩)], { actions := 2, setCalls := 1, updates := 1 }⟩ := by rfl

end Migrator

end ConfigMigration

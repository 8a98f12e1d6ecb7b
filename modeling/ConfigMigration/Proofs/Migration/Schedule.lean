import ConfigMigration.Proofs.Migration.Sequence

/-!
# The schedule of a migration

A migration goes through its chain step by step.  A step reads both targets, asks its transform about the two
snapshots, and sends for each action the updates to the destination and then the deletes to the source.  Later calls
depend on earlier answers, so a schedule is a sequence of calls with their answers (`Schedule`).

Whatever the store answers, the calls of a run are the first ones of a schedule, a call that fails is the last one and
its error that of the run, and the run succeeds if and only if the whole schedule is carried out
(`migrate_follows_schedule`).
-/

namespace ConfigMigration

/-! ### Calls and answers -/

/-- What a run asks a store or a transform for. -/
inductive Call where
  | get (target : String) (path : Path)
  | transform (step : Registered) (source destination : Snapshot)
  | set (request : SetRequest)

/-- The entry of the journal for a call. -/
def Call.entry : Call → Entry
  | get target path => .get target path
  | transform r source destination => .transform r.position source destination
  | set request => .set request

/-- A call and its answer. -/
inductive Exchange where
  | get (target : String) (path : Path) (answer : Except StoreError Snapshot)
  | transform (step : Registered) (source destination : Snapshot) (answer : Except TransformError (List Action))
  | set (request : SetRequest) (answer : Except StoreError SetResponse)

namespace Exchange

def call : Exchange → Call
  | get target path _ => .get target path
  | transform r source destination _ => .transform r source destination
  | set request _ => .set request

/-- The error that a failing exchange makes of a run.  A failing Get or Set names its target, and a failing transform
the versions of its step. -/
def failure? : Exchange → Option MigrationError
  | get target _ (.error e) => some (.fetch target e)
  | transform r _ _ (.error e) => some (.transform r.step.fromVersion r.step.toVersion e)
  | set request (.error e) => some (.apply request.target e)
  | _ => none

/-- Set requests that are acknowledged. -/
def acknowledged (sets : List (SetRequest × SetResponse)) : List Exchange := sets.map fun a => .set a.1 (.ok a.2)

end Exchange

open Exchange (acknowledged)

/-- An exchange on a store in one state, and the state behind it.  A Get or a Set is answered by the store, and a
transform answers by itself. -/
inductive Answered {σ : Type} [Store σ] (targets : Targets) : σ → Exchange → σ → Prop where
  | get (s : σ) (target : String) (path : Path) :
      Answered targets s (.get target path (Store.get s target path).result) (Store.get s target path).state
  | transform (s : σ) (r : Registered) (source destination : Snapshot) :
      Answered targets s (.transform r source destination (r.step.apply targets source destination).value) s
  | set (s : σ) (request : SetRequest) :
      Answered targets s (.set request (Store.set s request).result) (Store.set s request).state

/-- Exchanges on a store one after the other. -/
inductive Conversation {σ : Type} [Store σ] (targets : Targets) : σ → List Exchange → σ → Prop where
  | nil (s : σ) : Conversation targets s [] s
  | cons {s t u : σ} {x : Exchange} {xs : List Exchange} (head : Answered targets s x t)
      (tail : Conversation targets t xs u) : Conversation targets s (x :: xs) u

/-! ### Schedules -/

/-- The Sets that are due for an action: its updates alone on the destination, and then its deletes alone on the
source.  An empty half is left out. -/
def Action.due (targets : Targets) (a : Action) : List SetRequest :=
  (if a.updates = [] then []
    else [{ target := targets.destination, base := a.updateBase, updates := a.updates, deletes := [] }]) ++
  (if a.deletes = [] then []
    else [{ target := targets.source, base := a.deleteBase, updates := [], deletes := a.deletes }])

/-- The beginning of a step: both targets are read from their roots,
and the transform turns the two snapshots into actions. -/
def opening (targets : Targets) (r : Registered) (source destination : Snapshot) (actions : List Action) :
    List Exchange :=
  [.get targets.source .root (.ok source), .get targets.destination .root (.ok destination),
    .transform r source destination (.ok actions)]

/-- The exchanges of a chain of which none fails: step by step, the beginning of the step and the Sets that are due
for its actions. -/
inductive Schedule (targets : Targets) : List Registered → List Exchange → Prop where
  | nil : Schedule targets [] []
  | step {r : Registered} {chain : List Registered} {source destination : Snapshot} {actions : List Action}
      {sets : List (SetRequest × SetResponse)} {rest : List Exchange}
      (due : sets.map Prod.fst = actions.flatMap (Action.due targets)) (tail : Schedule targets chain rest) :
      Schedule targets (r :: chain) (opening targets r source destination actions ++ acknowledged sets ++ rest)

/-- The calls of a sequence are the first ones of a schedule, and every answer but the last is the one that the
schedule goes on from. -/
structure Follows (targets : Targets) (chain : List Registered) (trace full : List Exchange) : Prop where
  schedule : Schedule targets chain full
  calls : trace.map Exchange.call <+: full.map Exchange.call
  answers : trace.dropLast <+: full

theorem Action.requests_eq_due (targets : Targets) (a : Action) :
    a.requests targets.source targets.destination = a.due targets := by
  unfold requests updateRequest? deleteRequest? due
  cases a.updates <;> cases a.deletes <;> rfl

/-- Nothing fails in a schedule. -/
theorem Schedule.failure?_eq_none {targets : Targets} {chain : List Registered} {full : List Exchange}
    (h : Schedule targets chain full) : ∀ x ∈ full, x.failure? = none := by
  induction h with
  | nil => simp
  | @step r chain source destination actions sets rest _ _ ih =>
    intro x hx
    rcases List.mem_append.mp hx with hx | hx
    · rcases List.mem_append.mp hx with hx | hx
      · simp only [opening, List.mem_cons, List.not_mem_nil, or_false] at hx
        rcases hx with rfl | rfl | rfl <;> rfl
      · obtain ⟨a, -, rfl⟩ := List.mem_map.mp hx
        rfl
    · exact ih x hx

private theorem exists_append_of_not_mem {α : Type} {front back before rest : List α} {x : α}
    (h : front ++ back = before ++ x :: rest) (hx : x ∉ front) :
    ∃ middle, before = front ++ middle ∧ back = middle ++ x :: rest := by
  rcases List.append_eq_append_iff.mp h with h | ⟨c, hfront, hback⟩
  · exact h
  · cases c with
    | nil => exact ⟨[], by simpa using hfront.symm, by simpa using hback.symm⟩
    | cons y c =>
      rw [List.cons_append, List.cons.injEq] at hback
      exact absurd (by rw [hfront, hback.1]; simp) hx

/-- In a schedule a Set stands behind the beginning of its step,
and only the Sets that are due before it stand in between. -/
theorem Schedule.exists_opening {targets : Targets} {chain : List Registered} {full : List Exchange}
    (h : Schedule targets chain full) {before rest : List Exchange} {x : Exchange} {q : SetRequest}
    (hfull : full = before ++ x :: rest) (hx : x.call = .set q) :
    ∃ r ∈ chain, ∃ earlier source destination actions sent,
      before = earlier ++ opening targets r source destination actions ++ acknowledged sent ∧
        sent.map Prod.fst ++ [q] <+: actions.flatMap (Action.due targets) := by
  induction h generalizing before with
  | nil => simp at hfull
  | @step r chain source destination actions sets tail hdue _ ih =>
    have hopening : x ∉ opening targets r source destination actions := by
      simp only [opening, List.mem_cons, List.not_mem_nil, or_false]
      rintro (rfl | rfl | rfl) <;> cases hx
    rw [List.append_assoc] at hfull
    obtain ⟨middle, rfl, hmiddle⟩ := exists_append_of_not_mem hfull hopening
    -- a Set of a later step stands behind all Sets of this one
    have hlater : ∀ before', tail = before' ++ x :: rest → middle = acknowledged sets ++ before' →
        ∃ r' ∈ r :: chain, ∃ earlier source' destination' actions' sent,
          opening targets r source destination actions ++ middle =
            earlier ++ opening targets r' source' destination' actions' ++ acknowledged sent ∧
            sent.map Prod.fst ++ [q] <+: actions'.flatMap (Action.due targets) := by
      rintro before' htail rfl
      obtain ⟨r', hr', earlier, source', destination', actions', sent, rfl, hq⟩ := ih htail
      refine ⟨r', List.mem_cons_of_mem _ hr',
        opening targets r source destination actions ++ acknowledged sets ++ earlier, source', destination', actions',
        sent, ?_, hq⟩
      simp only [List.append_assoc]
    rcases List.append_eq_append_iff.mp hmiddle with ⟨before', hbefore, htail⟩ | ⟨c, hsets, htail⟩
    · exact hlater before' htail hbefore
    · cases c with
      | nil => exact hlater [] htail.symm (by simpa using hsets.symm)
      | cons y c =>
        rw [List.cons_append, List.cons.injEq] at htail
        obtain ⟨sent, others, rfl, rfl, hothers⟩ := List.map_eq_append_iff.mp hsets
        obtain ⟨a, others, rfl, rfl, -⟩ := List.map_eq_cons_iff.mp hothers
        rw [htail.1] at hx
        cases hx
        refine ⟨r, List.mem_cons_self .., [], source, destination, actions, sent, rfl, ?_⟩
        rw [← hdue, List.map_append]
        exact ⟨others.map Prod.fst, List.append_assoc ..⟩

theorem Follows.failure?_eq_none {targets : Targets} {chain : List Registered} {trace full : List Exchange}
    (h : Follows targets chain trace full) : ∀ x ∈ trace.dropLast, x.failure? = none :=
  fun x hx => h.schedule.failure?_eq_none x (h.answers.subset hx)

theorem Follows.exists_opening {targets : Targets} {chain : List Registered} {trace full : List Exchange}
    (h : Follows targets chain trace full) {before rest : List Exchange} {x : Exchange} {q : SetRequest}
    (htrace : trace = before ++ x :: rest) (hx : x.call = .set q) :
    ∃ r ∈ chain, ∃ earlier source destination actions sent,
      before = earlier ++ opening targets r source destination actions ++ acknowledged sent ∧
        sent.map Prod.fst ++ [q] <+: actions.flatMap (Action.due targets) := by
  subst htrace
  have hbefore : before <+: full := by
    refine List.IsPrefix.trans ?_ h.answers
    rw [List.dropLast_append_of_ne_nil (List.cons_ne_nil _ _)]
    exact List.prefix_append ..
  obtain ⟨others, rfl⟩ := hbefore
  obtain ⟨later, hcalls⟩ := h.calls
  rw [List.map_append, List.map_append, List.append_assoc, List.append_cancel_left_eq, List.map_cons,
    List.cons_append] at hcalls
  obtain ⟨y, others, rfl, hy, -⟩ := List.map_eq_cons_iff.mp hcalls.symm
  exact h.schedule.exists_opening rfl (hy.trans hx)

/-! ### What is carried out -/

/-- What an exchange carries out: a transform the actions that it returns, and a Set that is acknowledged its updates
and deletes. -/
def Exchange.tally : Exchange → Tally
  | transform _ _ _ (.ok actions) => { actions := actions.length }
  | set q (.ok _) => .ofRequest q
  | _ => {}

/-- What a sequence of exchanges carries out. -/
def tallyOf (trace : List Exchange) : Tally := trace.foldr (fun x rest => x.tally + rest) {}

theorem tallyOf_singleton (x : Exchange) : tallyOf [x] = x.tally := Tally.add_zero x.tally

theorem tallyOf_append (front back : List Exchange) : tallyOf (front ++ back) = tallyOf front + tallyOf back := by
  induction front with
  | nil => exact (Tally.zero_add _).symm
  | cons x front ih =>
    change x.tally + tallyOf (front ++ back) = x.tally + tallyOf front + tallyOf back
    rw [ih, Tally.add_assoc]

theorem tallyOf_opening (targets : Targets) (r : Registered) (source destination : Snapshot) (actions : List Action) :
    tallyOf (opening targets r source destination actions) = { actions := actions.length } := by
  change ({} : Tally) + ({} + ({ actions := actions.length } + {})) = _
  rw [Tally.zero_add, Tally.zero_add, Tally.add_zero]

/-! ### Runs and their exchanges -/

/-- A run on a store: its result, and the exchanges that it consists of. -/
structure HasTrace {σ α : Type} [Store σ] (targets : Targets) (x : Run σ α) (s : σ) (trace : List Exchange)
    (result : Except MigrationError α) : Prop where
  result : (x s).result = result
  calls : (x s).calls = trace.map fun e => e.call.entry
  conversation : Conversation targets s trace (x s).state

/-- Given which exchanges are planned for which value, a run carries out a plan on every store: as a whole, or up to
and with a planned call that fails. -/
def CarriesOut {σ α : Type} [Store σ] (targets : Targets) (x : Run σ α) (plan : α → List Exchange → Prop) : Prop :=
  ∀ s,
    (∃ trace a, HasTrace targets x s trace (.ok a) ∧ plan a trace) ∨
      ∃ done failed e, HasTrace targets x s (done ++ [failed]) (.error e) ∧ failed.failure? = some e ∧
        ∃ a expected rest, plan a (done ++ expected :: rest) ∧ expected.call = failed.call

variable {σ α β : Type} [Store σ] {targets : Targets}

theorem Conversation.append {s t u : σ} {xs ys : List Exchange} (hx : Conversation targets s xs t)
    (hy : Conversation targets t ys u) : Conversation targets s (xs ++ ys) u := by
  induction hx with
  | nil => exact hy
  | cons head _ ih => exact .cons head (ih hy)

theorem Answered.conversation {s t : σ} {x : Exchange} (h : Answered targets s x t) :
    Conversation targets s [x] t := .cons h (.nil t)

theorem filter_map_event (events : List Event) :
    ((events.map Entry.event).filter fun entry => entry.event?.isNone) = [] := by
  rw [List.filter_eq_nil_iff]
  intro entry h
  obtain ⟨event, -, rfl⟩ := List.mem_map.mp h
  exact Bool.false_ne_true

namespace HasTrace

theorem of_agrees {x y : Run σ α} {s : σ} {trace : List Exchange} {result : Except MigrationError α}
    (h : (x s).Agrees (y s)) (hy : HasTrace targets y s trace result) : HasTrace targets x s trace result :=
  ⟨h.result.trans hy.result, h.calls.trans hy.calls, h.state ▸ hy.conversation⟩

theorem pure (a : α) (s : σ) : HasTrace targets (Pure.pure a : Run σ α) s [] (.ok a) := ⟨rfl, rfl, .nil s⟩

theorem bind_of_ok {x : Run σ α} {f : α → Run σ β} {s : σ} {a : α} {trace others : List Exchange}
    {result : Except MigrationError β} (hx : HasTrace targets x s trace (.ok a))
    (hf : HasTrace targets (f a) (x s).state others result) :
    HasTrace targets (x >>= f) s (trace ++ others) result := by
  refine ⟨?_, ?_, ?_⟩
  · rw [Run.result_bind_of_ok hx.result, hf.result]
  · rw [Run.calls_bind, hx.result, List.map_append, ← hx.calls, ← hf.calls]
  · rw [Run.state_bind_of_ok hx.result]
    exact hx.conversation.append hf.conversation

theorem bind_of_error {x : Run σ α} {s : σ} {e : MigrationError} {trace : List Exchange}
    (hx : HasTrace targets x s trace (.error e)) (f : α → Run σ β) :
    HasTrace targets (x >>= f) s trace (.error e) := by
  refine ⟨Run.result_bind_of_error hx.result f, ?_, ?_⟩
  · rw [Run.calls_bind, hx.result, ← hx.calls]
  · rw [Run.state_bind_of_error hx.result]
    exact hx.conversation

theorem fetch (target : String) (s : σ) :
    HasTrace targets (Migrator.fetch target) s [.get target .root (Store.get s target .root).result]
      ((Store.get s target .root).result.mapError (.fetch target)) :=
  ⟨rfl, congrArg _ (filter_map_event _), (Answered.get s target .root).conversation⟩

theorem send (q : SetRequest) (s : σ) :
    HasTrace targets (Migrator.send q) s [.set q (Store.set s q).result]
      (((Store.set s q).result.map fun _ => Tally.ofRequest q).mapError (.apply q.target)) :=
  ⟨rfl, congrArg _ (filter_map_event _), (Answered.set s q).conversation⟩

theorem lift (x : Logged α) (s : σ) : HasTrace targets (Run.lift x) s [] (.ok x.value) :=
  ⟨rfl, filter_map_event x.events, .nil s⟩

/-- The note of a call of a transform stands for the call with its answer. -/
theorem note (r : Registered) (source destination : Snapshot) (s : σ) :
    HasTrace targets (Run.note (.transform r.position source destination)) s
      [.transform r source destination (r.step.apply targets source destination).value] (.ok ()) :=
  ⟨rfl, rfl, (Answered.transform s r source destination).conversation⟩

end HasTrace

namespace CarriesOut

theorem of_agrees {x y : Run σ α} {plan : α → List Exchange → Prop} (h : ∀ s, (x s).Agrees (y s))
    (hy : CarriesOut targets y plan) : CarriesOut targets x plan := by
  intro s
  rcases hy s with ⟨trace, a, htrace, hplan⟩ | ⟨done, failed, e, htrace, hfailed⟩
  · exact .inl ⟨trace, a, htrace.of_agrees (h s), hplan⟩
  · exact .inr ⟨done, failed, e, htrace.of_agrees (h s), hfailed⟩

theorem mono {x : Run σ α} {plan wider : α → List Exchange → Prop} (hx : CarriesOut targets x plan)
    (h : ∀ a trace, plan a trace → wider a trace) : CarriesOut targets x wider := by
  intro s
  rcases hx s with ⟨trace, a, htrace, hplan⟩ | ⟨done, failed, e, htrace, hfailure, a, expected, rest, hplan, hcall⟩
  · exact .inl ⟨trace, a, htrace, h _ _ hplan⟩
  · exact .inr ⟨done, failed, e, htrace, hfailure, a, expected, rest, h _ _ hplan, hcall⟩

theorem pure (a : α) : CarriesOut targets (Pure.pure a : Run σ α) fun b trace => b = a ∧ trace = [] :=
  fun s => .inl ⟨[], a, .pure a s, rfl, rfl⟩

/-- One plan behind the other. -/
theorem bind {x : Run σ α} {f : α → Run σ β} {plan : α → List Exchange → Prop}
    {next : α → β → List Exchange → Prop} (hx : CarriesOut targets x plan)
    (hf : ∀ a, CarriesOut targets (f a) (next a)) :
    CarriesOut targets (x >>= f) fun b trace =>
      ∃ a front back, trace = front ++ back ∧ plan a front ∧ next a b back := by
  intro s
  rcases hx s with ⟨front, a, hfront, hplan⟩ | ⟨done, failed, e, hdone, hfailure, a, expected, rest, hplan, hcall⟩
  · rcases hf a (x s).state with ⟨back, b, hback, hnext⟩ |
      ⟨done, failed, e, hdone, hfailure, b, expected, rest, hnext, hcall⟩
    · exact .inl ⟨front ++ back, b, hfront.bind_of_ok hback, a, front, back, rfl, hplan, hnext⟩
    · refine .inr ⟨front ++ done, failed, e, ?_, hfailure, b, expected, rest,
        ⟨a, front, done ++ expected :: rest, List.append_assoc .., hplan, hnext⟩, hcall⟩
      rw [List.append_assoc]
      exact hfront.bind_of_ok hdone
  · -- what would have followed is planned as well: it is read off any run of the second part
    have hnext : ∃ b back, next a b back := by
      rcases hf a s with ⟨back, b, -, hnext⟩ | ⟨_, _, _, -, -, b, _, _, hnext, -⟩
      · exact ⟨b, back, hnext⟩
      · exact ⟨b, _, hnext⟩
    obtain ⟨b, back, hnext⟩ := hnext
    refine .inr ⟨done, failed, e, hdone.bind_of_error f, hfailure, b, expected, rest ++ back,
      ⟨a, done ++ expected :: rest, back, ?_, hplan, hnext⟩, hcall⟩
    rw [List.append_assoc, List.cons_append]

/-- A last part that calls nothing. -/
theorem bind_pure {x : Run σ α} {plan : α → List Exchange → Prop} (hx : CarriesOut targets x plan) (f : α → β) :
    CarriesOut targets (x >>= fun a => Pure.pure (f a)) fun b trace => ∃ a, b = f a ∧ plan a trace := by
  refine (hx.bind fun a => .pure (f a)).mono ?_
  rintro b trace ⟨a, front, back, rfl, hplan, rfl, rfl⟩
  exact ⟨a, rfl, by rwa [List.append_nil]⟩

end CarriesOut

namespace Migrator

/-! ### The parts of a migration -/

theorem fetch_carriesOut (target : String) :
    CarriesOut targets (fetch target : Run σ Snapshot) fun snapshot trace =>
      trace = [.get target .root (.ok snapshot)] := by
  intro s
  have htrace : HasTrace targets (fetch target) s _ _ := .fetch target s
  cases hanswer : (Store.get s target .root).result with
  | ok snapshot =>
    rw [hanswer] at htrace
    exact .inl ⟨_, snapshot, htrace, rfl⟩
  | error e =>
    rw [hanswer] at htrace
    exact .inr ⟨[], _, _, htrace, rfl, default, _, [], rfl, rfl⟩

theorem send_carriesOut (q : SetRequest) :
    CarriesOut targets (send q : Run σ Tally) fun tally trace =>
      (∃ response, trace = [.set q (.ok response)]) ∧ tally = tallyOf trace := by
  intro s
  have htrace : HasTrace targets (send q) s _ _ := .send q s
  cases hanswer : (Store.set s q).result with
  | ok response =>
    rw [hanswer] at htrace
    exact .inl ⟨_, _, htrace, ⟨response, rfl⟩, (tallyOf_singleton (.set q (.ok response))).symm⟩
  | error e =>
    rw [hanswer] at htrace
    exact .inr ⟨[], _, _, htrace, rfl, _, _, [], ⟨⟨⟨q.target, 0⟩, rfl⟩, rfl⟩, rfl⟩

theorem sendAll_carriesOut (requests : List SetRequest) :
    CarriesOut targets (sendAll requests : Run σ Tally) fun tally trace =>
      (∃ sets, trace = acknowledged sets ∧ sets.map Prod.fst = requests) ∧ tally = tallyOf trace := by
  induction requests with
  | nil => exact (CarriesOut.pure _).mono fun _ trace h => ⟨⟨[], h.2, rfl⟩, by rw [h.1, h.2]; rfl⟩
  | cons q requests ih =>
    refine ((send_carriesOut q).bind fun tally => ih.bind_pure (tally + ·)).mono ?_
    rintro - - ⟨-, -, -, rfl, ⟨⟨response, rfl⟩, rfl⟩, -, rfl, ⟨sets, rfl, hsets⟩, rfl⟩
    exact ⟨⟨(q, response) :: sets, rfl, congrArg _ hsets⟩, (tallyOf_append _ _).symm⟩

/-- The transform of a step fails the run with the versions of the step. -/
theorem runTransform_carriesOut (r : Registered) (source destination : Snapshot) :
    CarriesOut targets
      (do
        Run.note (.transform r.position source destination)
        match ← Run.lift (r.step.apply targets source destination) with
        | .error e => Run.fail (.transform r.step.fromVersion r.step.toVersion e)
        | .ok actions =>
          Run.log .debug "transform produced actions"
            [("count", .count actions.length), ("transform", .display r.step.transform.description)]
          return actions : Run σ (List Action))
      fun actions trace => trace = [.transform r source destination (.ok actions)] := by
  intro s
  have hnote : HasTrace targets (Run.note _) s _ _ := .note r source destination s
  have hlift : HasTrace targets (Run.lift _) s _ _ := .lift (r.step.apply targets source destination) s
  cases hanswer : (r.step.apply targets source destination).value with
  | ok actions =>
    rw [hanswer] at hnote hlift
    exact .inl ⟨_, actions, hnote.bind_of_ok (hlift.bind_of_ok ⟨rfl, rfl, .nil s⟩), rfl⟩
  | error e =>
    rw [hanswer] at hnote hlift
    exact .inr ⟨[], _, _, hnote.bind_of_ok (hlift.bind_of_ok ⟨rfl, rfl, .nil s⟩), rfl, [], _, [], rfl, rfl⟩

theorem runStep_carriesOut (r : Registered) :
    CarriesOut targets (runStep r targets : Run σ (List Action)) fun actions trace =>
      ∃ source destination, trace = opening targets r source destination actions := by
  refine .of_agrees (fun s => Run.agrees_log_bind _ _ _ _ s) ?_
  refine ((fetch_carriesOut targets.source).bind fun source =>
    (fetch_carriesOut targets.destination).bind fun destination =>
      runTransform_carriesOut r source destination).mono ?_
  rintro actions - ⟨source, -, -, rfl, rfl, destination, -, -, rfl, rfl, rfl⟩
  exact ⟨source, destination, rfl⟩

theorem applyAll_carriesOut (actions : List Action) :
    CarriesOut targets (applyAll targets actions : Run σ Tally) fun tally trace =>
      (∃ sets, trace = acknowledged sets ∧ sets.map Prod.fst = actions.flatMap (Action.due targets)) ∧
        tally = tallyOf trace + { actions := actions.length } := by
  rw [applyAll_eq, funext (Action.requests_eq_due targets)]
  refine ((sendAll_carriesOut _).bind_pure _).mono ?_
  rintro - trace ⟨-, rfl, h, rfl⟩
  exact ⟨h, rfl⟩

/-- The run of a chain keeps to the schedule of the chain, and its report names the steps and counts what they do. -/
theorem runChain_reports (chain : List Registered) :
    CarriesOut targets (runChain targets chain : Run σ Report) fun report trace =>
      Schedule targets chain trace ∧ report = ⟨chain.map fun r => r.step.versions, tallyOf trace⟩ := by
  induction chain with
  | nil => exact (CarriesOut.pure _).mono fun _ trace h => ⟨h.2 ▸ .nil, by rw [h.1, h.2]; rfl⟩
  | cons r chain ih =>
    have hstep : CarriesOut targets (runChain targets (r :: chain) : Run σ Report) _ :=
      (runStep_carriesOut r).bind fun actions =>
      (applyAll_carriesOut actions).bind fun tally =>
        ih.bind_pure fun rest => ({ steps := r.step.versions :: rest.steps, tally := tally + rest.tally } : Report)
    refine hstep.mono ?_
    rintro - - ⟨actions, -, -, rfl, ⟨source, destination, rfl⟩, -, -, rest, rfl, ⟨⟨sets, rfl, hsets⟩, rfl⟩, -, rfl,
      hrest, rfl⟩
    rw [← List.append_assoc]
    refine ⟨.step hsets hrest, ?_⟩
    rw [tallyOf_append, tallyOf_append, tallyOf_opening, Tally.add_comm { actions := actions.length }]
    rfl

theorem runChain_carriesOut (chain : List Registered) :
    CarriesOut targets (runChain targets chain : Run σ Report) fun _ trace => Schedule targets chain trace :=
  (runChain_reports chain).mono fun _ _ h => h.1

end Migrator

/-! ### The protocol of a migration -/

/-- The protocol of a run along a chain. -/
structure Protocol (targets : Targets) (chain : List Registered) (trace : List Exchange)
    (result : Except MigrationError Report) : Prop where
  /-- The calls are the first ones of a schedule. -/
  follows : ∃ full, Follows targets chain trace full
  /-- The run succeeds if and only if it goes to the end of the schedule. -/
  complete : (∃ report, result = .ok report) ↔ Schedule targets chain trace
  /-- The error of the run is that of its last call. -/
  error : ∀ e, result = .error e ↔ ∃ done failed, trace = done ++ [failed] ∧ failed.failure? = some e
  /-- No call before the last one fails. -/
  none_before : ∀ x ∈ trace.dropLast, x.failure? = none
  /-- A Set is sent only behind the beginning of its step, and behind the Sets that are due before it. -/
  prepared : ∀ before q answer after, trace = before ++ .set q answer :: after →
    ∃ r ∈ chain, ∃ earlier source destination actions sent,
      before = earlier ++ opening targets r source destination actions ++ acknowledged sent ∧
        sent.map Prod.fst ++ [q] <+: actions.flatMap (Action.due targets)

namespace Protocol

variable {chain : List Registered} {trace : List Exchange}

theorem of_schedule (h : Schedule targets chain trace) (report : Report) :
    Protocol targets chain trace (.ok report) := by
  have hfollows : Follows targets chain trace trace := ⟨h, List.prefix_refl _, List.dropLast_prefix _⟩
  refine ⟨⟨trace, hfollows⟩, ⟨fun _ => h, fun _ => ⟨report, rfl⟩⟩, ?_, hfollows.failure?_eq_none, ?_⟩
  · intro e
    constructor
    · intro he
      cases he
    · rintro ⟨done, failed, rfl, hfailure⟩
      rw [h.failure?_eq_none failed (by simp)] at hfailure
      cases hfailure
  · exact fun before q answer after htrace => hfollows.exists_opening htrace rfl

theorem of_failure {done rest : List Exchange} {expected failed : Exchange} {e : MigrationError}
    (h : Schedule targets chain (done ++ expected :: rest)) (hcall : expected.call = failed.call)
    (hfailure : failed.failure? = some e) : Protocol targets chain (done ++ [failed]) (.error e) := by
  have hfollows : Follows targets chain (done ++ [failed]) (done ++ expected :: rest) := by
    refine ⟨h, ?_, ?_⟩
    · rw [List.map_append, List.map_append, List.map_singleton, List.map_cons, hcall]
      exact ⟨rest.map Exchange.call, List.append_assoc ..⟩
    · rw [List.dropLast_concat]
      exact List.prefix_append ..
  refine ⟨⟨_, hfollows⟩, ?_, ?_, hfollows.failure?_eq_none, ?_⟩
  · constructor
    · rintro ⟨report, hreport⟩
      cases hreport
    · intro hcomplete
      rw [hcomplete.failure?_eq_none failed (by simp)] at hfailure
      cases hfailure
  · intro e'
    constructor
    · intro he
      cases he
      exact ⟨done, failed, rfl, hfailure⟩
    · rintro ⟨done', failed', htrace, hfailure'⟩
      obtain ⟨-, hlast⟩ := List.append_inj' htrace rfl
      rw [← List.singleton_inj.mp hlast, hfailure, Option.some.injEq] at hfailure'
      rw [hfailure']
  · exact fun before q answer after htrace => hfollows.exists_opening htrace rfl

theorem trace_eq_nil {result : Except MigrationError Report} (h : Protocol targets [] trace result) : trace = [] := by
  obtain ⟨full, hfollows⟩ := h.follows
  have hfull := hfollows.schedule
  cases hfull
  exact List.map_eq_nil_iff.mp (List.prefix_nil.mp hfollows.calls)

end Protocol

namespace Migrator

/-- On every store and with all transforms, a migration keeps to the protocol along its chain.  Without a chain, and
between equal versions, it calls nothing. -/
theorem migrate_follows_schedule (steps : List Step) (targets : Targets) (start goal : Version) (s : σ) :
    ∃ trace, HasTrace targets (migrate steps targets start goal) s trace (migrate steps targets start goal s).result ∧
      (start = goal → trace = []) ∧
      match Chain.resolve steps start goal with
      | .error e => (migrate steps targets start goal s).result = .error (.chainNotFound e) ∧ trace = []
      | .ok chain => Protocol targets chain trace (migrate steps targets start goal s).result := by
  cases hresolve : Chain.resolve steps start goal with
  | error e =>
    have hrun := migrate_of_resolve_eq_error hresolve targets s
    refine ⟨[], ⟨rfl, ?_, ?_⟩, fun _ => rfl, ?_, rfl⟩
    · rw [hrun]
      rfl
    · rw [hrun]
      exact .nil s
    · rw [hrun]
  | ok chain =>
    have hrun : CarriesOut targets (migrate steps targets start goal) fun _ trace => Schedule targets chain trace :=
      (runChain_carriesOut chain).of_agrees fun s : σ => migrate_agrees_runChain hresolve targets s
    have hprotocol : ∃ trace, HasTrace targets (migrate steps targets start goal) s trace
        (migrate steps targets start goal s).result ∧
        Protocol targets chain trace (migrate steps targets start goal s).result := by
      rcases hrun s with ⟨trace, report, htrace, hschedule⟩ |
        ⟨done, failed, e, htrace, hfailure, -, expected, rest, hschedule, hcall⟩
      · rw [htrace.result]
        exact ⟨trace, htrace, .of_schedule hschedule report⟩
      · rw [htrace.result]
        exact ⟨done ++ [failed], htrace, .of_failure hschedule hcall hfailure⟩
    obtain ⟨trace, htrace, hprotocol⟩ := hprotocol
    refine ⟨trace, htrace, ?_, hprotocol⟩
    intro h
    have hchain : chain = [] := by
      rw [Chain.resolve, if_pos h, Except.ok.injEq] at hresolve
      exact hresolve.symm
    subst hchain
    exact hprotocol.trace_eq_nil

end Migrator

end ConfigMigration

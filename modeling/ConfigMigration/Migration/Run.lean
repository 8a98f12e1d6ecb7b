import ConfigMigration.Migration.Error

/-!
# Running migrations

A migration resolves its chain and then, for each step in turn, reads both targets, asks the transform for its
actions, and carries them out: the updates of an action on the destination, then its deletes on the source.  The
journal of a run lists the requests to the store, the calls of transforms and the events, in the order in which they
happen.  The first failure ends the run.
-/

namespace ConfigMigration

/-- Something that happens in a run. -/
inductive Entry where
  /-- A Get request. -/
  | get (target : String) (path : Path)
  /-- A Set request. -/
  | set (request : SetRequest)
  /-- A call of the transform of the step at a place among the registered ones. -/
  | transform (position : Nat) (source destination : Snapshot)
  /-- A report. -/
  | event (event : Event)
deriving DecidableEq

/-- The event of an entry. -/
def Entry.event? : Entry → Option Event
  | event e => some e
  | _ => none

/-- The outcome of a run on a store. -/
structure Outcome (σ α : Type) where
  /-- The result. -/
  result : Except MigrationError α
  /-- The store behind the run. -/
  state : σ
  /-- What happened. -/
  journal : List Entry

/-- The events of a run. -/
def Outcome.events {σ α : Type} (o : Outcome σ α) : List Event := o.journal.filterMap Entry.event?

/-- A computation on a store that keeps a journal and ends at its first failure. -/
def Run (σ α : Type) := σ → Outcome σ α

namespace Run

variable {σ α β : Type}

/-- Goes on with a result. -/
def bind (x : Run σ α) (f : α → Run σ β) : Run σ β := fun s =>
  let o := x s
  match o.result with
  | .error e => ⟨.error e, o.state, o.journal⟩
  | .ok a =>
    let p := f a o.state
    ⟨p.result, p.state, o.journal ++ p.journal⟩

instance : Monad (Run σ) where
  pure a := fun s => ⟨.ok a, s, []⟩
  bind := bind

/-- Fails. -/
def fail (e : MigrationError) : Run σ α := fun s => ⟨.error e, s, []⟩

/-- Reports an event of the migrator. -/
def log (level : Level) (message : String) (fields : List (String × FieldValue)) : Run σ Unit := fun s =>
  ⟨.ok (), s, [.event { level, component := .migrator, message, fields }]⟩

/-- Takes over the events of a logged value. -/
def lift (x : Logged α) : Run σ α := fun s => ⟨.ok x.value, s, x.events.map .event⟩

/-- Notes a call of a transform. -/
def note (entry : Entry) : Run σ Unit := fun s => ⟨.ok (), s, [entry]⟩

@[simp] theorem pure_apply (a : α) (s : σ) : (pure a : Run σ α) s = ⟨.ok a, s, []⟩ := rfl

theorem bind_apply_of_ok {x : Run σ α} {s : σ} {a : α} (h : (x s).result = .ok a) (f : α → Run σ β) :
    (x >>= f) s =
      ⟨(f a (x s).state).result, (f a (x s).state).state, (x s).journal ++ (f a (x s).state).journal⟩ := by
  change bind x f s = _
  simp [bind, h]

theorem bind_apply_of_error {x : Run σ α} {s : σ} {e : MigrationError} (h : (x s).result = .error e)
    (f : α → Run σ β) : (x >>= f) s = ⟨.error e, (x s).state, (x s).journal⟩ := by
  change bind x f s = _
  simp [bind, h]

end Run

/-- How much was carried out. -/
structure Tally where
  /-- The number of actions. -/
  actions : Nat := 0
  /-- The number of Set requests. -/
  setCalls : Nat := 0
  /-- The number of updates. -/
  updates : Nat := 0
  /-- The number of deletes. -/
  deletes : Nat := 0
deriving DecidableEq, Repr

/-- The sum of two tallies. -/
instance : Add Tally where
  add a b :=
    { actions := a.actions + b.actions
      setCalls := a.setCalls + b.setCalls
      updates := a.updates + b.updates
      deletes := a.deletes + b.deletes }

/-- The tally of one acknowledged request. -/
def Tally.ofRequest (r : SetRequest) : Tally :=
  { setCalls := 1, updates := r.updates.length, deletes := r.deletes.length }

/-- The report of a migration. -/
structure Report where
  /-- The versions of the steps, in the order of the chain. -/
  steps : List (Version × Version) := []
  /-- How much was carried out. -/
  tally : Tally := {}
deriving DecidableEq, Repr

/-- Whether no step was run. -/
def Report.isNoop (r : Report) : Bool := r.steps.isEmpty

namespace Migrator

variable {σ : Type} [Store σ]

/-! ### Requests -/

/-- Reads the tree of a target. -/
def fetch (target : String) : Run σ Snapshot := fun s =>
  let reply := Store.get s target .root
  { result := reply.result.mapError (.fetch target)
    state := reply.state
    journal := .get target .root :: reply.events.map .event }

/-- The event for the answer to a Set. -/
def setEvent (r : SetRequest) : Except StoreError SetResponse → Event
  | .ok response =>
    { level := .debug, component := .migrator, message := "set applied",
      fields := [("target_name", .display response.target), ("timestamp", .integer response.timestamp)] }
  | .error e =>
    { level := .error, component := .migrator, message := "set failed",
      fields := [("target_name", .display r.target), ("error", .display e.message)] }

/-- Sends a Set request. -/
def send (r : SetRequest) : Run σ Tally := fun s =>
  let reply := Store.set s r
  { result := (reply.result.map fun _ => .ofRequest r).mapError (.apply r.target)
    state := reply.state
    journal := .set r :: (reply.events ++ [setEvent r reply.result]).map .event }

/-- Sends Set requests one after the other. -/
def sendAll : List SetRequest → Run σ Tally
  | [] => pure {}
  | r :: requests => do
    let tally ← send r
    return tally + (← sendAll requests)

/-! ### Steps -/

/-- Reads both targets and asks a step for its actions.  Nothing is changed. -/
def runStep (r : Registered) (targets : Targets) : Run σ (List Action) := do
  .log .info "running migration step"
    [("from", .display r.step.fromVersion.label), ("to", .display r.step.toVersion.label),
     ("from_target", .text targets.source), ("to_target", .text targets.destination)]
  let source ← fetch targets.source
  let destination ← fetch targets.destination
  .note (.transform r.position source destination)
  match ← Run.lift (r.step.apply targets source destination) with
  | .error e => .fail (.transform r.step.fromVersion r.step.toVersion e)
  | .ok actions =>
    .log .debug "transform produced actions"
      [("count", .count actions.length), ("transform", .display r.step.transform.description)]
    return actions

/-- Carries out an action. -/
def applyAction (a : Action) (targets : Targets) : Run σ Tally := do
  let tally ← sendAll (a.requests targets.source targets.destination)
  return tally + { actions := 1 }

/-- Carries out actions one after the other. -/
def applyAll (targets : Targets) : List Action → Run σ Tally
  | [] => pure {}
  | a :: actions => do
    let tally ← applyAction a targets
    return tally + (← applyAll targets actions)

/-! ### Migrations -/

/-- Runs the steps of a chain one after the other. -/
def runChain (targets : Targets) : List Registered → Run σ Report
  | [] => pure {}
  | r :: chain => do
    let actions ← runStep r targets
    let tally ← applyAll targets actions
    let rest ← runChain targets chain
    return { steps := r.step.versions :: rest.steps, tally := tally + rest.tally }

/-- Migrates the source target from one version to another into the destination target. -/
def migrate (steps : List Step) (targets : Targets) (start goal : Version) : Run σ Report :=
  match Chain.resolve steps start goal with
  | .error e => .fail (.chainNotFound e)
  | .ok [] => do
    .log .info "source and destination versions match, nothing to migrate" [("version", .display start.label)]
    return {}
  | .ok chain => do
    .log .info "starting migration"
      [("from", .display start.label), ("to", .display goal.label), ("steps", .count chain.length)]
    let report ← runChain targets chain
    .log .info "migration complete"
      [("steps", .count report.steps.length), ("set_calls", .count report.tally.setCalls),
       ("updates", .count report.tally.updates), ("deletes", .count report.tally.deletes)]
    return report

end Migrator

end ConfigMigration

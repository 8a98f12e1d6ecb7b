import ConfigMigration.Migration.Run

/-!
# Runs as sequences of requests

Runs form a lawful monad, so it does not matter how the parts of a run are grouped.  In particular carrying out
actions one after the other is sending all of their requests in one sequence (`applyAll_eq`).  Up to the events that
are reported, a migration is the run of its chain (`migrate_agrees_runChain`).
-/

namespace ConfigMigration

/-- The calls of a run: the entries of its journal that are no reports. -/
def Outcome.calls {σ α : Type} (o : Outcome σ α) : List Entry := o.journal.filter fun entry => entry.event?.isNone

/-- Two outcomes differ at most in the events that are reported. -/
structure Outcome.Agrees {σ α : Type} (o p : Outcome σ α) : Prop where
  result : o.result = p.result
  state : o.state = p.state
  calls : o.calls = p.calls

namespace Outcome.Agrees

variable {σ α : Type} {o p q : Outcome σ α}

theorem refl (o : Outcome σ α) : o.Agrees o := ⟨rfl, rfl, rfl⟩

theorem symm (h : o.Agrees p) : p.Agrees o := ⟨h.result.symm, h.state.symm, h.calls.symm⟩

theorem trans (h : o.Agrees p) (h' : p.Agrees q) : o.Agrees q :=
  ⟨h.result.trans h'.result, h.state.trans h'.state, h.calls.trans h'.calls⟩

end Outcome.Agrees

namespace Run

variable {σ α β : Type}

instance : LawfulMonad (Run σ) :=
  LawfulMonad.mk' (Run σ)
    (by
      intro α x
      funext s
      change (x >>= pure) s = x s
      cases hx : (x s).result with
      | error e => rw [bind_apply_of_error hx, ← hx]
      | ok a => rw [bind_apply_of_ok hx, pure_apply, List.append_nil, ← hx])
    (by
      intro α β a f
      funext s
      rw [bind_apply_of_ok rfl, pure_apply, List.nil_append])
    (by
      intro α β γ x f g
      funext s
      cases hx : (x s).result with
      | error e =>
        have hxf : ((x >>= f) s).result = .error e := by rw [bind_apply_of_error hx]
        rw [bind_apply_of_error hxf, bind_apply_of_error hx, bind_apply_of_error hx]
      | ok a =>
        rw [bind_apply_of_ok hx]
        cases hf : (f a (x s).state).result with
        | error e =>
          have hxf : ((x >>= f) s).result = .error e := by rw [bind_apply_of_ok hx, hf]
          rw [bind_apply_of_error hxf, bind_apply_of_error hf, bind_apply_of_ok hx]
        | ok b =>
          have hxf : ((x >>= f) s).result = .ok b := by rw [bind_apply_of_ok hx, hf]
          rw [bind_apply_of_ok hxf, bind_apply_of_ok hf, bind_apply_of_ok hx, List.append_assoc])

/-- The store behind a sequence is the one behind its second part, unless the first part fails. -/
theorem state_bind (x : Run σ α) (f : α → Run σ β) (s : σ) :
    ((x >>= f) s).state =
      match (x s).result with
      | .error _ => (x s).state
      | .ok a => (f a (x s).state).state := by
  cases hx : (x s).result with
  | error e => rw [bind_apply_of_error hx]
  | ok a => rw [bind_apply_of_ok hx]

theorem result_bind (x : Run σ α) (f : α → Run σ β) (s : σ) :
    ((x >>= f) s).result =
      match (x s).result with
      | .error e => .error e
      | .ok a => (f a (x s).state).result := by
  cases hx : (x s).result with
  | error e => rw [bind_apply_of_error hx]
  | ok a => rw [bind_apply_of_ok hx]

theorem state_bind_of_ok {x : Run σ α} {s : σ} {a : α} (h : (x s).result = .ok a) (f : α → Run σ β) :
    ((x >>= f) s).state = (f a (x s).state).state := by
  rw [bind_apply_of_ok h]

theorem result_bind_of_ok {x : Run σ α} {s : σ} {a : α} (h : (x s).result = .ok a) (f : α → Run σ β) :
    ((x >>= f) s).result = (f a (x s).state).result := by
  rw [bind_apply_of_ok h]

theorem state_bind_of_error {x : Run σ α} {s : σ} {e : MigrationError} (h : (x s).result = .error e)
    (f : α → Run σ β) : ((x >>= f) s).state = (x s).state := by
  rw [bind_apply_of_error h]

theorem result_bind_of_error {x : Run σ α} {s : σ} {e : MigrationError} (h : (x s).result = .error e)
    (f : α → Run σ β) : ((x >>= f) s).result = .error e := by
  rw [bind_apply_of_error h]

/-- A last part that never fails and leaves the store alone does not matter. -/
theorem bind_of_total {f : α → Run σ β} (hf : ∀ a s, ∃ b journal, f a s = ⟨.ok b, s, journal⟩) (x : Run σ α) (s : σ) :
    ((x >>= f) s).result.isOk = (x s).result.isOk ∧ ((x >>= f) s).state = (x s).state := by
  rw [result_bind, state_bind]
  cases (x s).result with
  | error e => exact ⟨rfl, rfl⟩
  | ok a =>
    obtain ⟨b, journal, h⟩ := hf a (x s).state
    simp only
    rw [h]
    exact ⟨rfl, rfl⟩

theorem state_log_bind (level : Level) (message : String) (fields : List (String × FieldValue)) (f : Unit → Run σ β)
    (s : σ) : ((log level message fields >>= f) s).state = (f () s).state := rfl

theorem result_log_bind (level : Level) (message : String) (fields : List (String × FieldValue))
    (f : Unit → Run σ β) (s : σ) : ((log level message fields >>= f) s).result = (f () s).result := rfl

/-! ### Agreement -/

theorem calls_bind (x : Run σ α) (f : α → Run σ β) (s : σ) :
    ((x >>= f) s).calls =
      match (x s).result with
      | .error _ => (x s).calls
      | .ok a => (x s).calls ++ (f a (x s).state).calls := by
  cases hx : (x s).result with
  | error e =>
    rw [bind_apply_of_error hx]
    rfl
  | ok a =>
    rw [bind_apply_of_ok hx]
    exact List.filter_append ..

/-- Runs of which each part agrees with its counterpart agree as a whole. -/
theorem agrees_bind {x y : Run σ α} {f g : α → Run σ β} {s : σ} (hx : (x s).Agrees (y s))
    (hf : ∀ a, (y s).result = .ok a → (f a (y s).state).Agrees (g a (y s).state)) :
    ((x >>= f) s).Agrees ((y >>= g) s) := by
  obtain ⟨hresult, hstate, hcalls⟩ := hx
  refine ⟨?_, ?_, ?_⟩
  · rw [result_bind, result_bind, hresult, hstate]
    cases hy : (y s).result with
    | error e => rfl
    | ok a => exact (hf a hy).result
  · rw [state_bind, state_bind, hresult, hstate]
    cases hy : (y s).result with
    | error e => rfl
    | ok a => exact (hf a hy).state
  · rw [calls_bind, calls_bind, hresult, hstate, hcalls]
    cases hy : (y s).result with
    | error e => rfl
    | ok a => exact congrArg _ (hf a hy).calls

/-- A report in front of a run does not matter. -/
theorem agrees_log_bind (level : Level) (message : String) (fields : List (String × FieldValue)) (x : Run σ β)
    (s : σ) : ((log level message fields >>= fun _ => x) s).Agrees (x s) :=
  ⟨rfl, rfl, calls_bind (log level message fields) (fun _ => x) s⟩

/-- A report behind a run does not matter. -/
theorem agrees_bind_log (level : Level) (message : String) (fields : α → List (String × FieldValue)) (x : Run σ α)
    (s : σ) : ((do let a ← x; log level message (fields a); return a) s).Agrees (x s) := by
  have hx := agrees_bind (g := pure) (Outcome.Agrees.refl (x s)) fun a _ =>
    agrees_log_bind level message (fields a) (pure a) (x s).state
  rwa [bind_pure] at hx

end Run

namespace Tally

theorem add_assoc (a b c : Tally) : a + b + c = a + (b + c) := by
  change Tally.mk _ _ _ _ = Tally.mk _ _ _ _
  congr 1 <;> exact Nat.add_assoc _ _ _

theorem add_comm (a b : Tally) : a + b = b + a := by
  change Tally.mk _ _ _ _ = Tally.mk _ _ _ _
  congr 1 <;> exact Nat.add_comm _ _

@[simp] theorem zero_add (a : Tally) : {} + a = a := by
  change Tally.mk _ _ _ _ = _
  cases a
  congr 1 <;> exact Nat.zero_add _

@[simp] theorem add_zero (a : Tally) : a + {} = a := by
  rw [add_comm, zero_add]

end Tally

namespace Migrator

variable {σ : Type} [Store σ]

theorem sendAll_append (requests others : List SetRequest) :
    (sendAll (requests ++ others) : Run σ Tally) = do
      let tally ← sendAll requests
      return tally + (← sendAll others) := by
  induction requests with
  | nil =>
    rw [List.nil_append, sendAll]
    simp only [pure_bind, Tally.zero_add, bind_pure]
  | cons r requests ih =>
    rw [List.cons_append, sendAll, sendAll, ih]
    simp only [bind_assoc, pure_bind, Tally.add_assoc]

/-- Carrying out actions is sending their requests. -/
theorem applyAll_eq (targets : Targets) (actions : List Action) :
    (applyAll targets actions : Run σ Tally) = do
      let tally ← sendAll (actions.flatMap fun a => a.requests targets.source targets.destination)
      return tally + { actions := actions.length } := by
  induction actions with
  | nil =>
    rw [applyAll, List.flatMap_nil, sendAll, pure_bind]
    rfl
  | cons a actions ih =>
    have hcount : ∀ x y : Tally, x + { actions := 1 } + (y + { actions := actions.length }) =
        x + y + { actions := (a :: actions).length } := by
      intro x y
      have : ({ actions := (a :: actions).length } : Tally) = { actions := 1 } + { actions := actions.length } :=
        congrArg (fun n => ({ actions := n } : Tally)) (Nat.add_comm actions.length 1)
      rw [this, Tally.add_assoc, Tally.add_assoc, ← Tally.add_assoc _ y, Tally.add_comm _ y, Tally.add_assoc]
    rw [List.flatMap_cons, sendAll_append, applyAll, ih, applyAction]
    simp only [bind_assoc, pure_bind, hcount]

/-- A migration whose chain is resolved is the run of the chain, with reports around it. -/
theorem migrate_agrees_runChain {steps : List Step} {start goal : Version} {chain : List Registered}
    (h : Chain.resolve steps start goal = .ok chain) (targets : Targets) (s : σ) :
    (migrate steps targets start goal s).Agrees (runChain targets chain s) := by
  unfold migrate
  rw [h]
  cases chain with
  | nil => exact Run.agrees_log_bind _ _ _ _ s
  | cons r chain =>
    exact (Run.agrees_log_bind .info "starting migration" _ _ s).trans
      (Run.agrees_bind_log .info "migration complete" _ (runChain targets (r :: chain)) s)

/-- Without a chain nothing is called. -/
theorem migrate_of_resolve_eq_error {steps : List Step} {start goal : Version} {e : ChainNotFound}
    (h : Chain.resolve steps start goal = .error e) (targets : Targets) (s : σ) :
    migrate steps targets start goal s = ⟨.error (.chainNotFound e), s, []⟩ := by
  unfold migrate
  rw [h]
  rfl

end Migrator

end ConfigMigration

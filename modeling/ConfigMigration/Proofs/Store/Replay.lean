import ConfigMigration.Proofs.Migration.Sequence
import ConfigMigration.Store.Memory

/-!
# Requests replayed on trees

What a sequence of Set requests leaves of each tree.  Whichever requests fail, the trees are those that the
acknowledged requests make, and these are the first ones of the sequence (`exists_replay`).  Without planted failures,
and with requests that every tree of a kind accepts, all of them are acknowledged (`sendAll_isOk`).
-/

namespace ConfigMigration.MemoryStore

open Migrator (send sendAll)

/-- The tree of a target behind one request that does not fail. -/
def step (target : String) (tree : Option Json) (r : SetRequest) : Option Json :=
  if r.target = target then (applyTo r (tree.getD .emptyObject)).toOption.or tree else tree

/-- The tree of a target behind requests of which none fails. -/
def replay (target : String) (requests : List SetRequest) (tree : Option Json) : Option Json :=
  requests.foldl (step target) tree

theorem replay_cons (target : String) (r : SetRequest) (requests : List SetRequest) (tree : Option Json) :
    replay target (r :: requests) tree = replay target requests (step target tree r) := rfl

theorem replay_append (target : String) (requests others : List SetRequest) (tree : Option Json) :
    replay target (requests ++ others) tree = replay target others (replay target requests tree) :=
  List.foldl_append

theorem step_of_ne {target : String} {r : SetRequest} (h : r.target ≠ target) (tree : Option Json) :
    step target tree r = tree := if_neg h

theorem step_of_applyTo {r : SetRequest} {tree tree' : Json} (h : applyTo r tree = .ok tree') :
    step r.target (some tree) r = some tree' := by
  rw [step, if_pos rfl, Option.getD_some, h]
  rfl

theorem replay_of_forall_ne {target : String} {requests : List SetRequest} (h : ∀ r ∈ requests, r.target ≠ target)
    (tree : Option Json) : replay target requests tree = tree := by
  induction requests with
  | nil => rfl
  | cons r requests ih =>
    rw [List.forall_mem_cons] at h
    rw [replay_cons, step_of_ne h.1, ih h.2]

/-- Requests that change nothing change nothing one after the other. -/
theorem replay_eq_self {target : String} {requests : List SetRequest} {tree : Json}
    (h : ∀ r ∈ requests, r.target = target → applyTo r tree = .ok tree) :
    replay target requests (some tree) = some tree := by
  induction requests with
  | nil => rfl
  | cons r requests ih =>
    rw [List.forall_mem_cons] at h
    rw [replay_cons]
    by_cases ht : r.target = target
    · rw [← ht, step_of_applyTo (h.1 ht), ht]
      exact ih h.2
    · rw [step_of_ne ht]
      exact ih h.2

/-- What each request keeps of a tree, a sequence of them keeps. -/
theorem replay_induction {P : Json → Prop} {target : String} {requests : List SetRequest}
    (h : ∀ r ∈ requests, r.target = target → ∀ tree, P tree → ∃ tree', applyTo r tree = .ok tree' ∧ P tree')
    {tree : Json} (hp : P tree) : ∃ tree', replay target requests (some tree) = some tree' ∧ P tree' := by
  induction requests generalizing tree with
  | nil => exact ⟨tree, rfl, hp⟩
  | cons r requests ih =>
    rw [List.forall_mem_cons] at h
    rw [replay_cons]
    by_cases ht : r.target = target
    · obtain ⟨tree', happly, hp'⟩ := h.1 ht tree hp
      rw [← ht, step_of_applyTo happly, ht]
      exact ih h.2 hp'
    · rw [step_of_ne ht]
      exact ih h.2 hp

/-- The tree of a target takes the requests for the target, one after the other. -/
inductive Takes (target : String) : List SetRequest → Json → Json → Prop where
  | nil (tree : Json) : Takes target [] tree tree
  | apply {r : SetRequest} {requests : List SetRequest} {tree tree₁ tree' : Json} (ht : r.target = target)
      (happly : applyTo r tree = .ok tree₁) (rest : Takes target requests tree₁ tree') :
      Takes target (r :: requests) tree tree'
  | skip {r : SetRequest} {requests : List SetRequest} {tree tree' : Json} (ht : r.target ≠ target)
      (rest : Takes target requests tree tree') : Takes target (r :: requests) tree tree'

/-! ### Updates -/

theorem writeAll_cons {base : Path} {u : Update} {updates : List Update} {tree tree₁ : Json}
    (hu : Tree.write (base.join u.path) u.value tree = .ok tree₁) :
    writeAll base (u :: updates) tree = writeAll base updates tree₁ := by
  rw [writeAll, hu]

/-- Where some updates are written, the first of them is, and the others in what it leaves. -/
theorem exists_write_of_writeAll {base : Path} {u : Update} {updates : List Update} {tree tree' : Json}
    (h : writeAll base (u :: updates) tree = .ok tree') :
    ∃ tree₁, Tree.write (base.join u.path) u.value tree = .ok tree₁ ∧ writeAll base updates tree₁ = .ok tree' := by
  cases hu : Tree.write (base.join u.path) u.value tree with
  | error fault =>
    rw [writeAll, hu] at h
    cases h
  | ok tree₁ => exact ⟨tree₁, rfl, (writeAll_cons hu).symm.trans h⟩

/-! ### One request -/

theorem tree?_insertTree (s : MemoryStore) (target other : String) (tree : Json) :
    (s.insertTree target tree).tree? other = if other = target then some tree else s.tree? other := by
  unfold tree? insertTree
  split
  · rename_i h
    rw [h, Dictionary.lookup_insert_self]
  · rename_i h
    rw [Dictionary.lookup_insert_of_ne h]

/-- What one Set does.  Either it is refused and every tree stays as it is, or the request is applied to the tree of
its target and is acknowledged under its number. -/
theorem set_cases (s : MemoryStore) (r : SetRequest) :
    (∃ e, (s.sets.length ∈ s.failingSets ∨ applyTo r ((s.tree? r.target).getD .emptyObject) = .error e) ∧
      (s.set r).result = .error e ∧ (s.set r).state = { s with sets := s.sets ++ [r] }) ∨
    ∃ tree, s.sets.length ∉ s.failingSets ∧ applyTo r ((s.tree? r.target).getD .emptyObject) = .ok tree ∧
      (s.set r).result = .ok ⟨r.target, s.sets.length⟩ ∧
      (s.set r).state = { s with sets := s.sets ++ [r], trees := Dictionary.insert r.target tree s.trees } := by
  unfold set
  by_cases hfail : s.sets.length ∈ s.failingSets
  · left
    exact ⟨.unavailable r.target, .inl hfail, by simp only [if_pos hfail], by simp only [if_pos hfail]⟩
  · simp only [if_neg hfail]
    cases happly : applyTo r ((s.tree? r.target).getD .emptyObject) with
    | error e =>
      left
      exact ⟨e, .inr rfl, rfl, rfl⟩
    | ok tree =>
      right
      exact ⟨tree, hfail, rfl, rfl, rfl⟩

theorem tree?_set_of_error {s : MemoryStore} {r : SetRequest} {e : StoreError} (h : (s.set r).result = .error e)
    (target : String) : (s.set r).state.tree? target = s.tree? target := by
  rcases set_cases s r with ⟨e', -, -, hstate⟩ | ⟨tree, -, -, hresult, -⟩
  · rw [hstate]
    rfl
  · rw [hresult] at h
    cases h

/-- A Set that is acknowledged changes the tree of its target. -/
theorem tree?_set_of_ok {s : MemoryStore} {r : SetRequest} {a : SetResponse} (h : (s.set r).result = .ok a)
    (target : String) : (s.set r).state.tree? target = step target (s.tree? target) r := by
  rcases set_cases s r with ⟨e, -, hresult, -⟩ | ⟨tree, -, happly, -, hstate⟩
  · rw [hresult] at h
    cases h
  · rw [hstate]
    change (s.insertTree r.target tree).tree? target = _
    rw [tree?_insertTree]
    by_cases ht : target = r.target
    · rw [if_pos ht, ht, step, if_pos rfl, happly]
      rfl
    · rw [if_neg ht, step_of_ne fun heq => ht heq.symm]

theorem exists_applyTo_of_set_ok {s : MemoryStore} {r : SetRequest} {a : SetResponse} (h : (s.set r).result = .ok a) :
    ∃ tree, applyTo r ((s.tree? r.target).getD .emptyObject) = .ok tree := by
  rcases set_cases s r with ⟨e, -, hresult, -⟩ | ⟨tree, -, happly, -, -⟩
  · rw [hresult] at h
    cases h
  · exact ⟨tree, happly⟩

theorem failures_set (s : MemoryStore) (r : SetRequest) :
    (s.set r).state.failingGets = s.failingGets ∧ (s.set r).state.failingSets = s.failingSets := by
  rcases set_cases s r with ⟨e, -, -, hstate⟩ | ⟨tree, -, -, -, hstate⟩ <;> rw [hstate] <;> exact ⟨rfl, rfl⟩

theorem isOk_set {s : MemoryStore} (hs : s.failingSets = []) {r : SetRequest} {tree : Json}
    (h : applyTo r ((s.tree? r.target).getD .emptyObject) = .ok tree) : ∃ a, (s.set r).result = .ok a := by
  rcases set_cases s r with ⟨e, hcause, -, -⟩ | ⟨tree, -, -, hresult, -⟩
  · rw [hs, h] at hcause
    rcases hcause with hin | hfail
    · cases hin
    · cases hfail
  · exact ⟨_, hresult⟩

private theorem result_send_of_ok {s : MemoryStore} {r : SetRequest} {a : SetResponse}
    (h : (s.set r).result = .ok a) : (send r s).result = .ok (Tally.ofRequest r) := by
  change ((s.set r).result.map fun _ => Tally.ofRequest r).mapError _ = _
  rw [h]
  rfl

private theorem result_send_of_error {s : MemoryStore} {r : SetRequest} {e : StoreError}
    (h : (s.set r).result = .error e) : (send r s).result = .error (.apply r.target e) := by
  change ((s.set r).result.map fun _ => Tally.ofRequest r).mapError _ = _
  rw [h]
  rfl

/-! ### Sequences -/

/-- Behind a request that fails nothing more is sent. -/
theorem state_sendAll_of_error {s : MemoryStore} {r : SetRequest} {e : StoreError} (h : (s.set r).result = .error e)
    (requests : List SetRequest) : (sendAll (r :: requests) s).state = (s.set r).state := by
  rw [sendAll, Run.state_bind_of_error (result_send_of_error h)]
  rfl

/-- Behind a request that is acknowledged the others are sent. -/
theorem sendAll_of_ok {s : MemoryStore} {r : SetRequest} {a : SetResponse} (h : (s.set r).result = .ok a)
    (requests : List SetRequest) :
    (sendAll (r :: requests) s).state = (sendAll requests (s.set r).state).state ∧
      (sendAll (r :: requests) s).result =
        (sendAll requests (s.set r).state).result.map (Tally.ofRequest r + ·) := by
  have hstate : (send r s).state = (s.set r).state := rfl
  rw [sendAll, Run.state_bind_of_ok (result_send_of_ok h), Run.result_bind_of_ok (result_send_of_ok h), hstate,
    Run.state_bind, Run.result_bind]
  cases (sendAll requests (s.set r).state).result <;> exact ⟨rfl, rfl⟩

/-- Where every request is acknowledged, each tree takes the requests for its target. -/
theorem takes_of_sendAll {requests : List SetRequest} {s : MemoryStore}
    (h : (sendAll requests s).result.isOk = true) {target : String} {tree : Json}
    (htree : s.tree? target = some tree) :
    ∃ tree', (sendAll requests s).state.tree? target = some tree' ∧ Takes target requests tree tree' := by
  induction requests generalizing s tree with
  | nil => exact ⟨tree, htree, .nil tree⟩
  | cons r requests ih =>
    cases hr : (s.set r).result with
    | error e =>
      rw [sendAll, Run.result_bind_of_error (result_send_of_error hr)] at h
      cases h
    | ok a =>
      obtain ⟨hstate, hresult⟩ := sendAll_of_ok hr requests
      have hrest : (sendAll requests (s.set r).state).result.isOk = true := by
        rw [hresult] at h
        cases hrest : (sendAll requests (s.set r).state).result with
        | error e =>
          rw [hrest] at h
          cases h
        | ok tally => rfl
      have hset := tree?_set_of_ok hr target
      rw [htree] at hset
      rw [hstate]
      by_cases ht : r.target = target
      · obtain ⟨tree₁, happly⟩ := exists_applyTo_of_set_ok hr
        rw [ht, htree, Option.getD_some] at happly
        rw [← ht, step_of_applyTo happly, ht] at hset
        obtain ⟨tree', hfinal, htakes⟩ := ih hrest hset
        exact ⟨tree', hfinal, .apply ht happly htakes⟩
      · rw [step_of_ne ht] at hset
        obtain ⟨tree', hfinal, htakes⟩ := ih hrest hset
        exact ⟨tree', hfinal, .skip ht htakes⟩

/-- Whatever fails, the trees are those behind the first requests of a sequence. -/
theorem exists_replay (requests : List SetRequest) (s : MemoryStore) :
    ∃ acknowledged, acknowledged <+: requests ∧
      ∀ target, (sendAll requests s).state.tree? target = replay target acknowledged (s.tree? target) := by
  induction requests generalizing s with
  | nil => exact ⟨[], List.prefix_rfl, fun _ => rfl⟩
  | cons r requests ih =>
    cases hr : (s.set r).result with
    | error e =>
      refine ⟨[], List.nil_prefix, fun target => ?_⟩
      rw [state_sendAll_of_error hr]
      exact tree?_set_of_error hr target
    | ok a =>
      obtain ⟨acknowledged, hpre, htrees⟩ := ih (s.set r).state
      refine ⟨r :: acknowledged, List.prefix_cons_inj r |>.mpr hpre, fun target => ?_⟩
      rw [replay_cons, ← tree?_set_of_ok hr, ← htrees, (sendAll_of_ok hr requests).1]

/-- Without planted failures, requests that their trees accept are all acknowledged. -/
theorem sendAll_isOk {P : Json → Prop} {requests : List SetRequest} {s : MemoryStore} (hs : s.failingSets = [])
    (hp : ∀ r ∈ requests, ∃ tree, s.tree? r.target = some tree ∧ P tree)
    (h : ∀ r ∈ requests, ∀ tree, P tree → ∃ tree', applyTo r tree = .ok tree' ∧ P tree') :
    (∃ tally, (sendAll requests s).result = .ok tally) ∧
      ∀ target, (sendAll requests s).state.tree? target = replay target requests (s.tree? target) := by
  induction requests generalizing s with
  | nil => exact ⟨⟨_, rfl⟩, fun _ => rfl⟩
  | cons r requests ih =>
    rw [List.forall_mem_cons] at hp h
    obtain ⟨⟨tree, htree, hptree⟩, hp⟩ := hp
    obtain ⟨tree', happly, hptree'⟩ := h.1 tree hptree
    have happly' : applyTo r ((s.tree? r.target).getD .emptyObject) = .ok tree' := by
      rw [htree]
      exact happly
    obtain ⟨a, ha⟩ := isOk_set hs happly'
    have htrees := tree?_set_of_ok ha
    -- the tree of the request is of the same kind behind it, and the other trees stay as they are
    have hp' : ∀ r' ∈ requests, ∃ tree, (s.set r).state.tree? r'.target = some tree ∧ P tree := by
      intro r' hr'
      by_cases ht : r.target = r'.target
      · exact ⟨tree', by rw [htrees, ← ht, htree, step_of_applyTo happly], hptree'⟩
      · rw [htrees, step_of_ne ht]
        exact hp r' hr'
    obtain ⟨⟨tally, htally⟩, hrest⟩ := ih ((failures_set s r).2.trans hs) hp' h.2
    obtain ⟨hstate, hresult⟩ := sendAll_of_ok ha requests
    constructor
    · refine ⟨Tally.ofRequest r + tally, ?_⟩
      rw [hresult, htally]
      rfl
    · intro target
      rw [replay_cons, ← htrees, ← hrest, hstate]

theorem failures_sendAll (requests : List SetRequest) (s : MemoryStore) :
    (sendAll requests s).state.failingGets = s.failingGets ∧
      (sendAll requests s).state.failingSets = s.failingSets := by
  induction requests generalizing s with
  | nil => exact ⟨rfl, rfl⟩
  | cons r requests ih =>
    cases hr : (s.set r).result with
    | error e =>
      rw [state_sendAll_of_error hr]
      exact failures_set s r
    | ok a =>
      rw [(sendAll_of_ok hr requests).1, (ih _).1, (ih _).2]
      exact failures_set s r

end ConfigMigration.MemoryStore

import ConfigMigration.Proofs.Store.Replay

/-!
# Sessions with a store

A session is a sequence of commands to a store in memory: trees are put in, failures are planted, and Gets and Sets
are answered.  Only the trees that are put in and the Sets that are acknowledged leave a mark on the trees: a session
leaves the trees that its `effective` commands leave alone, whatever fails on the way (`session_is_atomic`).
-/

namespace ConfigMigration.MemoryStore

/-- What can be asked of a store in memory. -/
inductive Command where
  /-- Put a tree at a target. -/
  | insertTree (target : String) (tree : Json)
  /-- Let every Get on a target fail. -/
  | failGet (target : String)
  /-- Let the Set request with a given number fail. -/
  | failSet (index : Nat)
  | get (target : String) (path : Path)
  | set (request : SetRequest)

/-- The answer to a command; only Gets and Sets have one. -/
inductive Answer where
  | none
  | snapshot (result : Except StoreError Snapshot)
  | response (result : Except StoreError SetResponse)

def Command.request? : Command → Option SetRequest
  | set r => some r
  | _ => none

/-- Whether a command with its answer belongs to the commands that put in a tree and the Sets that are
acknowledged. -/
def Command.takesEffect : Command → Answer → Bool
  | insertTree .., _ => true
  | set _, .response (.ok _) => true
  | _, _ => false

/-- The answer of a store to a command. -/
def answer (s : MemoryStore) : Command → Answer
  | .get target path => .snapshot (s.get target path).result
  | .set r => .response (s.set r).result
  | _ => .none

/-- The store behind a command. -/
def after (s : MemoryStore) : Command → MemoryStore
  | .insertTree target tree => s.insertTree target tree
  | .failGet target => s.failGet target
  | .failSet index => s.failSet index
  | .get target path => (s.get target path).state
  | .set r => (s.set r).state

/-- The store behind a session. -/
def afterAll (s : MemoryStore) (commands : List Command) : MemoryStore := commands.foldl after s

/-- The commands of a session with their answers. -/
def transcript (s : MemoryStore) : List Command → List (Command × Answer)
  | [] => []
  | c :: commands => (c, s.answer c) :: transcript (s.after c) commands

/-- The commands of a session without Gets, planted failures and Sets that are refused. -/
def effective (s : MemoryStore) (commands : List Command) : List Command :=
  ((s.transcript commands).filter fun exchange => exchange.1.takesEffect exchange.2).map Prod.fst

/-- The store without planted failures; a store in which none is planted is left as it is. -/
def withoutFailures (s : MemoryStore) : MemoryStore := { s with failingGets := [], failingSets := [] }

theorem afterAll_cons (s : MemoryStore) (c : Command) (commands : List Command) :
    s.afterAll (c :: commands) = (s.after c).afterAll commands := rfl

theorem effective_cons (s : MemoryStore) (c : Command) (commands : List Command) :
    s.effective (c :: commands) =
      if c.takesEffect (s.answer c) then c :: (s.after c).effective commands else (s.after c).effective commands := by
  unfold effective
  rw [transcript, List.filter_cons]
  split <;> rfl

/-! ### One command -/

theorem sets_after (s : MemoryStore) (c : Command) : (s.after c).sets = s.sets ++ c.request?.toList := by
  cases c with
  | set r =>
    change (s.set r).state.sets = s.sets ++ [r]
    rcases set_cases s r with ⟨e, -, -, hstate⟩ | ⟨tree, -, -, -, hstate⟩ <;> rw [hstate]
  | _ => exact (List.append_nil _).symm

/-- A command that takes no effect leaves every tree as it is. -/
theorem trees_after_of_not_takesEffect {s : MemoryStore} {c : Command} (h : c.takesEffect (s.answer c) = false) :
    (s.after c).trees = s.trees := by
  cases c with
  | insertTree target tree => cases h
  | set r =>
    rcases set_cases s r with ⟨e, -, -, hstate⟩ | ⟨tree, -, -, hresult, -⟩
    · change (s.set r).state.trees = s.trees
      rw [hstate]
    · rw [answer, hresult] at h
      cases h
  | _ => rfl

/-- A command that takes effect does to the same trees what it would do without planted failures. -/
theorem trees_after_of_takesEffect {s t : MemoryStore} (htrees : s.trees = t.trees) (ht : t.failingSets = [])
    {c : Command} (h : c.takesEffect (s.answer c) = true) :
    (s.after c).trees = (t.after c).trees ∧ (t.after c).failingSets = [] := by
  cases c with
  | insertTree target tree =>
    refine ⟨?_, ht⟩
    change Dictionary.insert target tree s.trees = Dictionary.insert target tree t.trees
    rw [htrees]
  | set r =>
    refine ⟨?_, (failures_set t r).2.trans ht⟩
    change (s.set r).state.trees = (t.set r).state.trees
    have htree : t.tree? r.target = s.tree? r.target := by rw [tree?, tree?, htrees]
    rcases set_cases s r with ⟨e, -, hresult, -⟩ | ⟨tree, -, happly, -, hstate⟩
    · rw [answer, hresult] at h
      cases h
    · -- `t` refuses neither for a planted failure nor for the tree, which takes the same changes in `s`
      rcases set_cases t r with ⟨e, hcause, -, -⟩ | ⟨tree', -, happly', -, hstate'⟩
      · rw [ht, htree, happly] at hcause
        rcases hcause with hin | hfail
        · cases hin
        · cases hfail
      · rw [htree, happly] at happly'
        rw [hstate, hstate', Except.ok.inj happly', htrees]
  | _ => cases h

/-- An acknowledged Set carries the number of the requests received before it. -/
theorem timestamp_of_answer {s : MemoryStore} {r : SetRequest} {a : SetResponse}
    (h : s.answer (.set r) = .response (.ok a)) : a.timestamp = s.sets.length := by
  rw [answer, Answer.response.injEq] at h
  rcases set_cases s r with ⟨e, -, hresult, -⟩ | ⟨tree, -, -, hresult, -⟩
  · rw [hresult] at h
    cases h
  · rw [hresult, Except.ok.injEq] at h
    rw [← h]

/-! ### Whole sessions -/

theorem sets_afterAll (s : MemoryStore) (commands : List Command) :
    (s.afterAll commands).sets = s.sets ++ commands.filterMap Command.request? := by
  induction commands generalizing s with
  | nil => exact (List.append_nil _).symm
  | cons c commands ih =>
    rw [afterAll_cons, ih, sets_after, List.append_assoc]
    congr 1
    cases hc : c.request? with
    | none => rw [List.filterMap_cons_none hc, Option.toList_none, List.nil_append]
    | some r => rw [List.filterMap_cons_some hc, Option.toList_some, List.singleton_append]

/-- Each command is answered by the store behind the commands in front of it. -/
theorem answer_of_transcript {s : MemoryStore} {commands : List Command} {front back : List (Command × Answer)}
    {c : Command} {x : Answer} (h : s.transcript commands = front ++ (c, x) :: back) :
    x = (s.afterAll (front.map Prod.fst)).answer c := by
  induction front generalizing s commands with
  | nil =>
    cases commands with
    | nil => cases h
    | cons d commands =>
      obtain ⟨hhead, -⟩ := List.cons.inj h
      obtain ⟨rfl, rfl⟩ := Prod.mk.inj hhead
      rfl
  | cons y front ih =>
    cases commands with
    | nil => cases h
    | cons d commands =>
      obtain ⟨hhead, htail⟩ := List.cons.inj h
      rw [ih htail, ← hhead]
      rfl

/-- Two stores with the same trees, the second one without planted failures of Sets: a session leaves the trees of the
first one as its effective commands leave those of the second one. -/
theorem trees_afterAll_effective {s t : MemoryStore} (htrees : s.trees = t.trees) (ht : t.failingSets = [])
    (commands : List Command) : (s.afterAll commands).trees = (t.afterAll (s.effective commands)).trees := by
  -- Planted failures go by the number of a request, and the second store receives fewer of them.  So the stores agree
  -- along the way in their trees only, and the second one must not refuse a Set by its number.
  induction commands generalizing s t with
  | nil => exact htrees
  | cons c commands ih =>
    rw [afterAll_cons, effective_cons]
    cases h : c.takesEffect (s.answer c) with
    | false =>
      have hsame := trees_after_of_not_takesEffect h
      exact ih (hsame.trans htrees) ht
    | true =>
      obtain ⟨hsame, ht'⟩ := trees_after_of_takesEffect htrees ht h
      exact ih hsame ht'

/-- The trees behind a session are those behind its effective commands, where no failure is planted.  The record holds
every request in order, refused ones included, and the time stamp of an acknowledged Set is the number of the requests
received before it. -/
theorem session_is_atomic (s : MemoryStore) (commands : List Command) :
    (s.afterAll commands).trees = (s.withoutFailures.afterAll (s.effective commands)).trees ∧
      (s.afterAll commands).sets = s.sets ++ commands.filterMap Command.request? ∧
      ∀ (front back : List (Command × Answer)) (r : SetRequest) (a : SetResponse),
        s.transcript commands = front ++ (.set r, .response (.ok a)) :: back →
        a.timestamp = s.sets.length + ((front.map Prod.fst).filterMap Command.request?).length := by
  have htrees : s.trees = s.withoutFailures.trees := rfl
  refine ⟨trees_afterAll_effective htrees rfl commands, sets_afterAll s commands, ?_⟩
  intro front back r a hsplit
  have hanswer := answer_of_transcript hsplit
  rw [timestamp_of_answer hanswer.symm, sets_afterAll, List.length_append]
  exact Int.natCast_add _ _

end ConfigMigration.MemoryStore

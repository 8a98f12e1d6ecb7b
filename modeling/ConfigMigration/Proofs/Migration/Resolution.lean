import ConfigMigration.Migration.Chain
import Mathlib.Data.List.Chain

/-!
# Resolution as a first match

A chain is found in one pass over the registered steps that never goes back.  What the pass takes is described by
places alone: each step is the first one, behind the step taken before it, that leaves the version reached so far
(`IsFirstMatch`).  Such a chain is resolved if there is one, and the error of a resolution tells whether any step
leaves the version it starts from (`resolve_is_first_match`).  This holds for every list of steps, also with branches,
cycles and steps registered out of order.
-/

namespace ConfigMigration.Chain

/-! ### Places -/

theorem getElem?_register (k : Nat) (steps : List Step) (i : Nat) :
    (register k steps)[i]? = steps[i]?.map fun s => ⟨k + i, s⟩ := by
  induction steps generalizing k i with
  | nil => rfl
  | cons s steps ih =>
    rw [register]
    cases i with
    | zero => rfl
    | succ i =>
      rw [List.getElem?_cons_succ, List.getElem?_cons_succ, ih, Nat.add_right_comm, Nat.add_assoc]

theorem register_append (k : Nat) (steps more : List Step) :
    register k (steps ++ more) = register k steps ++ register (k + steps.length) more := by
  induction steps generalizing k with
  | nil => rfl
  | cons s steps ih =>
    have hlength : k + 1 + steps.length = k + (s :: steps).length := by
      rw [List.length_cons]
      omega
    rw [List.cons_append, register, register, ih, hlength, List.cons_append]

/-- The first step from place `k` on that leaves `v`. -/
structure IsFirstLeaving (steps : List Step) (k : Nat) (v : Version) (r : Registered) : Prop where
  registered : steps[r.position]? = some r.step
  leaves : r.step.fromVersion = v
  le : k ≤ r.position
  least : ∀ i s, k ≤ i → i < r.position → steps[i]? = some s → s.fromVersion ≠ v

theorem IsFirstLeaving.unique {steps : List Step} {k : Nat} {v : Version} {r r' : Registered}
    (h : IsFirstLeaving steps k v r) (h' : IsFirstLeaving steps k v r') : r = r' := by
  have hposition : r.position = r'.position := by
    rcases Nat.lt_trichotomy r.position r'.position with hlt | heq | hlt
    · exact absurd h.leaves (h'.least _ _ h.le hlt h.registered)
    · exact heq
    · exact absurd h'.leaves (h.least _ _ h'.le hlt h'.registered)
  have hstep : some r.step = some r'.step := by rw [← h.registered, ← h'.registered, hposition]
  cases r
  cases r'
  cases hposition
  cases hstep
  rfl

/-- A step in front of which no step leaves `v`, read by its place. -/
theorem isFirstLeaving_of_drop {steps : List Step} {k : Nat} {v : Version} {before after : List Registered}
    {r : Registered} (hdrop : (register 0 steps).drop k = before ++ r :: after)
    (hbefore : ∀ x ∈ before, x.step.fromVersion ≠ v) (hr : r.step.fromVersion = v) :
    IsFirstLeaving steps k v r ∧ after = (register 0 steps).drop (r.position + 1) := by
  have hget : ∀ i, (before ++ r :: after)[i]? = steps[k + i]?.map fun s => ⟨k + i, s⟩ := by
    intro i
    rw [← hdrop, List.getElem?_drop, getElem?_register, Nat.zero_add]
  obtain ⟨s, hs, rfl⟩ : ∃ s, steps[k + before.length]? = some s ∧ ⟨k + before.length, s⟩ = r := by
    have hplace := hget before.length
    rw [List.getElem?_append_right (Nat.le_refl _), Nat.sub_self, List.getElem?_cons_zero] at hplace
    exact Option.map_eq_some_iff.mp hplace.symm
  refine ⟨⟨hs, hr, Nat.le_add_right _ _, ?_⟩, ?_⟩
  · intro i t hk hi ht
    have hlt : i - k < before.length := by
      change i < k + before.length at hi
      omega
    have hmem : (⟨i, t⟩ : Registered) ∈ before := by
      have hplace := hget (i - k)
      rw [List.getElem?_append_left hlt, Nat.add_sub_cancel' hk, ht] at hplace
      exact List.mem_of_getElem? hplace
    exact hbefore _ hmem
  · have hrest := congrArg (List.drop (before.length + 1)) hdrop
    rw [List.drop_drop, List.drop_append, List.drop_of_length_le (Nat.le_succ _)] at hrest
    simp only [Nat.add_sub_cancel_left, List.drop_one, List.tail_cons, List.nil_append] at hrest
    exact hrest.symm

/-! ### One pass -/

@[simp] theorem scan_self (goal : Version) (l : List Registered) : scan goal goal l = [] := by
  cases l <;> simp [scan]

/-- What a pass takes first, if it goes on at all. -/
theorem scan_cases {goal current : Version} (h : current ≠ goal) (l : List Registered) :
    ((∀ x ∈ l, x.step.fromVersion ≠ current) ∧ scan goal current l = []) ∨
    ∃ before r after, l = before ++ r :: after ∧ (∀ x ∈ before, x.step.fromVersion ≠ current) ∧
      r.step.fromVersion = current ∧ scan goal current l = r :: scan goal r.step.toVersion after := by
  induction l with
  | nil =>
    left
    exact ⟨by simp, rfl⟩
  | cons x l ih =>
    rw [scan, if_neg h]
    by_cases hx : x.step.fromVersion = current
    · right
      exact ⟨[], x, l, rfl, by simp, hx, if_pos hx⟩
    · rw [if_neg hx]
      rcases ih with ⟨hnone, hscan⟩ | ⟨before, r, after, rfl, hbefore, hr, hscan⟩
      · left
        exact ⟨List.forall_mem_cons.mpr ⟨hx, hnone⟩, hscan⟩
      · right
        exact ⟨x :: before, r, after, rfl, List.forall_mem_cons.mpr ⟨hx, hbefore⟩, hr, hscan⟩

theorem reached_cons (v : Version) (r : Registered) (chain : List Registered) :
    reached v (r :: chain) = reached r.step.toVersion chain := by
  unfold reached
  rw [List.getLast?_cons]
  cases chain.getLast? <;> rfl

theorem reached_append (v : Version) (chain more : List Registered) :
    reached v (chain ++ more) = reached (reached v chain) more := by
  induction chain generalizing v with
  | nil => rfl
  | cons r chain ih => rw [List.cons_append, reached_cons, reached_cons, ih]

/-- A pass over more steps goes on where the pass over the first ones has stopped. -/
theorem scan_append (goal current : Version) (l more : List Registered) :
    scan goal current (l ++ more) =
      scan goal current l ++ scan goal (reached current (scan goal current l)) more := by
  induction l generalizing current with
  | nil => rfl
  | cons r l ih =>
    by_cases hgoal : current = goal
    · subst hgoal
      rw [scan_self, scan_self]
      exact (scan_self current more).symm
    · rw [List.cons_append, scan, scan, if_neg hgoal, if_neg hgoal]
      split
      · rw [reached_cons, List.cons_append, ih]
      · exact ih current

/-- What a pass over the registered steps from place `k` on takes first. -/
theorem scan_drop_cases {goal current : Version} (h : current ≠ goal) (steps : List Step) (k : Nat) :
    ((∀ i s, k ≤ i → steps[i]? = some s → s.fromVersion ≠ current) ∧
      scan goal current ((register 0 steps).drop k) = []) ∨
    ∃ r, IsFirstLeaving steps k current r ∧
      scan goal current ((register 0 steps).drop k) =
        r :: scan goal r.step.toVersion ((register 0 steps).drop (r.position + 1)) := by
  rcases scan_cases h ((register 0 steps).drop k) with ⟨hnone, hscan⟩ | ⟨before, r, after, hdrop, hbefore, hr, hscan⟩
  · left
    refine ⟨?_, hscan⟩
    intro i s hk hs
    have hplace : ((register 0 steps).drop k)[i - k]? = some ⟨i, s⟩ := by
      rw [List.getElem?_drop, Nat.add_sub_cancel' hk, getElem?_register, hs, Nat.zero_add]
      rfl
    exact hnone ⟨i, s⟩ (List.mem_of_getElem? hplace)
  · right
    obtain ⟨hfirst, hafter⟩ := isFirstLeaving_of_drop hdrop hbefore hr
    exact ⟨r, hfirst, by rw [hscan, hafter]⟩

/-! ### Chains -/

/-- A chain that is taken from place `k` on: each step is the first one that leaves the version reached before it, and
the chain ends where `goal` is reached. -/
def Walks (steps : List Step) (goal : Version) : Nat → Version → List Registered → Prop
  | _, v, [] => v = goal
  | k, v, r :: chain =>
    v ≠ goal ∧ IsFirstLeaving steps k v r ∧ Walks steps goal (r.position + 1) r.step.toVersion chain

/-- The first-match chain: it begins with the first step that leaves `start`, goes on with the first later step that
leaves the version reached, and arrives at `goal` with its last step and not before. -/
structure IsFirstMatch (steps : List Step) (start goal : Version) (chain : List Registered) : Prop where
  ne_nil : chain ≠ []
  head : ∀ r ∈ chain.head?, IsFirstLeaving steps 0 start r
  next : chain.IsChain fun r r' => IsFirstLeaving steps (r.position + 1) r.step.toVersion r'
  arrives : ∀ r ∈ chain.getLast?, r.step.toVersion = goal
  before : ∀ r ∈ chain.dropLast, r.step.toVersion ≠ goal

theorem walks_iff_scan (steps : List Step) (goal : Version) (k : Nat) (v : Version) (chain : List Registered) :
    Walks steps goal k v chain ↔
      scan goal v ((register 0 steps).drop k) = chain ∧ reached v chain = goal := by
  -- The pass and the chain begin with the same step, since only one step is the first to leave a version.
  induction chain generalizing k v with
  | nil =>
    constructor
    · rintro rfl
      exact ⟨scan_self _ _, rfl⟩
    · rintro ⟨-, hreached⟩
      exact hreached
  | cons r chain ih =>
    rw [Walks, ih, reached_cons]
    constructor
    · rintro ⟨hv, hr, hscan, hreached⟩
      refine ⟨?_, hreached⟩
      rcases scan_drop_cases hv steps k with ⟨hnone, -⟩ | ⟨r', hr', hscan'⟩
      · exact absurd hr.leaves (hnone _ _ hr.le hr.registered)
      · rw [hr'.unique hr] at hscan'
        rw [hscan', hscan]
    · rintro ⟨hscan, hreached⟩
      have hv : v ≠ goal := by
        rintro rfl
        rw [scan_self] at hscan
        cases hscan
      rcases scan_drop_cases hv steps k with ⟨-, hnil⟩ | ⟨r', hr', hscan'⟩
      · rw [hnil] at hscan
        cases hscan
      · rw [hscan', List.cons.injEq] at hscan
        obtain ⟨rfl, hrest⟩ := hscan
        exact ⟨hv, hr', hrest, hreached⟩

theorem walks_cons_iff (steps : List Step) (goal : Version) (k : Nat) (v : Version) (r : Registered)
    (chain : List Registered) :
    Walks steps goal k v (r :: chain) ↔
      v ≠ goal ∧ IsFirstLeaving steps k v r ∧
        (r :: chain).IsChain (fun r r' => IsFirstLeaving steps (r.position + 1) r.step.toVersion r') ∧
        (∀ x ∈ (r :: chain).getLast?, x.step.toVersion = goal) ∧
        ∀ x ∈ (r :: chain).dropLast, x.step.toVersion ≠ goal := by
  induction chain generalizing k v r with
  | nil => simp [Walks]
  | cons r' chain ih =>
    rw [Walks, ih, List.isChain_cons_cons, List.getLast?_cons_cons, List.dropLast_cons_cons, List.forall_mem_cons]
    constructor
    · rintro ⟨hv, hr, hne, hr', hchain, hlast, hbefore⟩
      exact ⟨hv, hr, ⟨hr', hchain⟩, hlast, hne, hbefore⟩
    · rintro ⟨hv, hr, ⟨hr', hchain⟩, hlast, hne, hbefore⟩
      exact ⟨hv, hr, hne, hr', hchain, hlast, hbefore⟩

theorem isFirstMatch_iff_walks {steps : List Step} {start goal : Version} (h : start ≠ goal)
    (chain : List Registered) : IsFirstMatch steps start goal chain ↔ Walks steps goal 0 start chain := by
  cases chain with
  | nil =>
    constructor
    · intro hmatch
      exact absurd rfl hmatch.ne_nil
    · intro hwalks
      exact absurd hwalks h
  | cons r chain =>
    rw [walks_cons_iff]
    constructor
    · intro hmatch
      exact ⟨h, hmatch.head r rfl, hmatch.next, hmatch.arrives, hmatch.before⟩
    · rintro ⟨-, hr, hnext, hlast, hbefore⟩
      refine ⟨List.cons_ne_nil _ _, ?_, hnext, hlast, hbefore⟩
      rintro x ⟨⟩
      exact hr

/-- The places of a first-match chain ascend, so it takes no step twice. -/
theorem IsFirstMatch.ascending {steps : List Step} {start goal : Version} {chain : List Registered}
    (h : IsFirstMatch steps start goal chain) : (chain.map Registered.position).Pairwise (· < ·) := by
  rw [← List.isChain_iff_pairwise, List.isChain_map]
  exact h.next.imp fun _ _ hnext => hnext.le

/-! ### Resolution -/

/-- The steps that one pass over the registered steps takes, whether it arrives or not. -/
def taken (steps : List Step) (start goal : Version) : List Registered := scan goal start (register 0 steps)

/-- The version at which the pass stops. -/
def stop (steps : List Step) (start goal : Version) : Version := reached start (taken steps start goal)

theorem resolve_self (steps : List Step) (v : Version) : resolve steps v v = .ok [] := if_pos rfl

theorem taken_eq_nil_iff {steps : List Step} {start goal : Version} (h : start ≠ goal) :
    taken steps start goal = [] ↔ ∀ s ∈ steps, s.fromVersion ≠ start := by
  have hdrop : (register 0 steps).drop 0 = register 0 steps := rfl
  rcases scan_drop_cases h steps 0 with ⟨hnone, hscan⟩ | ⟨r, hr, hscan⟩
  · rw [hdrop] at hscan
    constructor
    · intro _ s hs
      obtain ⟨i, hi⟩ := List.getElem?_of_mem hs
      exact hnone i s (Nat.zero_le i) hi
    · intro _
      exact hscan
  · rw [hdrop] at hscan
    constructor
    · intro hnil
      rw [taken, hscan] at hnil
      cases hnil
    · intro hnone
      exact absurd hr.leaves (hnone _ (List.mem_of_getElem? hr.registered))

/-- What resolution does: no step leaves `start`, or the pass arrives, or it takes steps and does not arrive. -/
theorem resolve_cases {steps : List Step} {start goal : Version} (h : start ≠ goal) :
    ((∀ s ∈ steps, s.fromVersion ≠ start) ∧ taken steps start goal = [] ∧
      resolve steps start goal = .error ⟨start⟩) ∨
    ((∃ s ∈ steps, s.fromVersion = start) ∧ stop steps start goal = goal ∧
      resolve steps start goal = .ok (taken steps start goal)) ∨
    ((∃ s ∈ steps, s.fromVersion = start) ∧ stop steps start goal ≠ goal ∧
      resolve steps start goal = .error ⟨goal⟩) := by
  have hresolve : resolve steps start goal =
      if (taken steps start goal).isEmpty then .error ⟨start⟩
      else if stop steps start goal = goal then .ok (taken steps start goal) else .error ⟨goal⟩ :=
    if_neg h
  by_cases hnil : taken steps start goal = []
  · left
    rw [hnil] at hresolve
    exact ⟨(taken_eq_nil_iff h).mp hnil, hnil, hresolve⟩
  · right
    rw [if_neg (by rwa [List.isEmpty_iff])] at hresolve
    have hleaves : ∃ s ∈ steps, s.fromVersion = start := by
      rw [taken_eq_nil_iff h] at hnil
      push Not at hnil
      exact hnil
    by_cases hreached : stop steps start goal = goal
    · left
      exact ⟨hleaves, hreached, hresolve.trans (if_pos hreached)⟩
    · right
      exact ⟨hleaves, hreached, hresolve.trans (if_neg hreached)⟩

theorem isFirstMatch_iff_taken {steps : List Step} {start goal : Version} (h : start ≠ goal)
    (chain : List Registered) :
    IsFirstMatch steps start goal chain ↔
      taken steps start goal = chain ∧ stop steps start goal = goal := by
  rw [isFirstMatch_iff_walks h, walks_iff_scan]
  constructor
  · rintro ⟨rfl, hreached⟩
    exact ⟨rfl, hreached⟩
  · rintro ⟨rfl, hreached⟩
    exact ⟨rfl, hreached⟩

/-- A pass that arrives is the chain, between equal versions too. -/
theorem resolve_eq_ok_iff_taken {steps : List Step} {start goal : Version} {chain : List Registered} :
    resolve steps start goal = .ok chain ↔ taken steps start goal = chain ∧ stop steps start goal = goal := by
  by_cases h : start = goal
  · subst h
    have hnil : taken steps start start = [] := scan_self start _
    have hstop : stop steps start start = start := by rw [stop, hnil]; rfl
    rw [resolve_self, hnil, Except.ok.injEq, and_iff_left hstop]
  · rcases resolve_cases h with ⟨-, hnil, hresolve⟩ | ⟨-, hreached, hresolve⟩ | ⟨-, hreached, hresolve⟩
    · rw [hresolve, stop, hnil]
      simp [reached, h]
    · rw [hresolve, Except.ok.injEq, and_iff_left hreached]
    · rw [hresolve]
      simp [hreached]

theorem resolve_eq_ok_iff {steps : List Step} {start goal : Version} (h : start ≠ goal) (chain : List Registered) :
    resolve steps start goal = .ok chain ↔ IsFirstMatch steps start goal chain :=
  resolve_eq_ok_iff_taken.trans (isFirstMatch_iff_taken h chain).symm

theorem resolve_eq_error_start_iff {steps : List Step} {start goal : Version} (h : start ≠ goal) :
    resolve steps start goal = .error ⟨start⟩ ↔ ∀ s ∈ steps, s.fromVersion ≠ start := by
  constructor
  · intro herror
    rcases resolve_cases h with ⟨hnone, -, -⟩ | ⟨-, -, hresolve⟩ | ⟨-, -, hresolve⟩
    · exact hnone
    · rw [hresolve] at herror
      cases herror
    · rw [hresolve, Except.error.injEq, ChainNotFound.mk.injEq] at herror
      exact absurd herror.symm h
  · intro hnone
    rcases resolve_cases h with ⟨-, -, hresolve⟩ | ⟨⟨s, hs, hleaves⟩, -⟩ | ⟨⟨s, hs, hleaves⟩, -⟩
    · exact hresolve
    · exact absurd hleaves (hnone s hs)
    · exact absurd hleaves (hnone s hs)

theorem resolve_eq_error_goal_iff {steps : List Step} {start goal : Version} (h : start ≠ goal) :
    resolve steps start goal = .error ⟨goal⟩ ↔
      (∃ s ∈ steps, s.fromVersion = start) ∧ ∀ chain, ¬IsFirstMatch steps start goal chain := by
  constructor
  · intro herror
    rcases resolve_cases h with ⟨-, -, hresolve⟩ | ⟨-, -, hresolve⟩ | ⟨hleaves, hreached, -⟩
    · rw [hresolve, Except.error.injEq, ChainNotFound.mk.injEq] at herror
      exact absurd herror h
    · rw [hresolve] at herror
      cases herror
    · refine ⟨hleaves, ?_⟩
      intro chain hmatch
      exact hreached ((isFirstMatch_iff_taken h chain).mp hmatch).2
  · rintro ⟨⟨s, hs, hleaves⟩, hnone⟩
    rcases resolve_cases h with ⟨hnone', -, -⟩ | ⟨-, -, hresolve⟩ | ⟨-, -, hresolve⟩
    · exact absurd hleaves (hnone' s hs)
    · exact absurd ((resolve_eq_ok_iff h _).mp hresolve) (hnone _)
    · exact hresolve

/-- The chain that is resolved is the first-match chain, which takes no step twice.  If there is none, the error names
`start` where no step leaves it, and `goal` otherwise.  Between equal versions the chain is empty. -/
theorem resolve_is_first_match (steps : List Step) (start goal : Version) :
    (start = goal → resolve steps start goal = .ok []) ∧
    (start ≠ goal →
      (∀ chain, resolve steps start goal = .ok chain ↔ IsFirstMatch steps start goal chain) ∧
      (∀ chain, resolve steps start goal = .ok chain → (chain.map Registered.position).Pairwise (· < ·)) ∧
      (resolve steps start goal = .error ⟨start⟩ ↔ ∀ s ∈ steps, s.fromVersion ≠ start) ∧
      (resolve steps start goal = .error ⟨goal⟩ ↔
        (∃ s ∈ steps, s.fromVersion = start) ∧ ∀ chain, ¬IsFirstMatch steps start goal chain)) := by
  constructor
  · rintro rfl
    exact resolve_self steps start
  · intro h
    refine ⟨resolve_eq_ok_iff h, ?_, resolve_eq_error_start_iff h, resolve_eq_error_goal_iff h⟩
    intro chain hok
    exact ((resolve_eq_ok_iff h chain).mp hok).ascending

end ConfigMigration.Chain

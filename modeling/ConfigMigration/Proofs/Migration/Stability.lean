import ConfigMigration.Proofs.Migration.Registration

/-!
# Resolved chains stay

The pass between two versions ends where the second one is reached, so it does not see what is registered behind that
place (`taken_append_of_stop`).  For the same reason a pass to a version that a chain reaches on its way takes the
same steps and stops there, provided that the version was not reached before (`scan_take`).  Together these make
resolution stable: a chain that was found once is found again after any registrations, and so is every beginning of it
that ends at a new version (`resolve_is_stable`).
-/

namespace ConfigMigration.Chain

variable {steps : List Step} {chain : List Registered} {start goal : Version}

/-- Whether the first `k` steps of a chain lead to a version that is neither `start` nor reached by fewer of them.
For `k = 0` there is nothing to ask. -/
def EndsAnew (start : Version) (chain : List Registered) (k : Nat) : Prop :=
  ∀ j < k, reached start (chain.take j) ≠ reached start (chain.take k)

instance (start : Version) (chain : List Registered) (k : Nat) : Decidable (EndsAnew start chain k) :=
  inferInstanceAs (Decidable (∀ j < k, _))

theorem EndsAnew.tail {r : Registered} {k : Nat} (h : EndsAnew start (r :: chain) (k + 1)) :
    EndsAnew r.step.toVersion chain k := by
  intro j hj
  have hne := h (j + 1) (Nat.succ_lt_succ hj)
  rwa [List.take_succ_cons, List.take_succ_cons, reached_cons, reached_cons] at hne

/-! ### More steps -/

/-- A pass that has arrived takes nothing of what is registered later. -/
theorem taken_append_of_stop (h : stop steps start goal = goal) (more : List Step) :
    taken (steps ++ more) start goal = taken steps start goal := by
  rw [taken_append, h, scan_self, List.append_nil]

theorem resolve_append_of_ok (h : resolve steps start goal = .ok chain) (more : List Step) :
    resolve (steps ++ more) start goal = .ok chain := by
  have hstop := (resolve_eq_ok_iff_taken.mp h).2
  rw [resolve_of_taken_eq (taken_append_of_stop hstop more), h]

/-! ### Fewer steps -/

/-- A pass to a version on the way takes the beginning of the chain that ends there. -/
theorem scan_take {l : List Registered} {v : Version} {k : Nat} (h : EndsAnew v (scan goal v l) k) :
    scan (reached v ((scan goal v l).take k)) v l = (scan goal v l).take k := by
  -- The two passes are at the same version at each place, and the one to the nearer version stops there first.
  induction l generalizing v k with
  | nil => exact List.take_nil.symm
  | cons r l ih =>
    cases k with
    | zero => exact scan_self v (r :: l)
    | succ k =>
      have hne : v ≠ reached v ((scan goal v (r :: l)).take (k + 1)) := h 0 (Nat.succ_pos k)
      by_cases hgoal : v = goal
      · subst hgoal
        rw [scan_self] at hne
        exact absurd rfl hne
      · by_cases hleaves : r.step.fromVersion = v
        · have hscan : scan goal v (r :: l) = r :: scan goal r.step.toVersion l := by
            rw [scan, if_neg hgoal, if_pos hleaves]
          rw [hscan] at h hne ⊢
          rw [scan, if_neg hne, if_pos hleaves, List.take_succ_cons, reached_cons, ih h.tail]
        · have hscan : scan goal v (r :: l) = scan goal v l := by
            rw [scan, if_neg hgoal, if_neg hleaves]
          rw [hscan] at h hne ⊢
          rw [scan, if_neg hne, if_neg hleaves, ih h]

theorem resolve_take_of_ok {k : Nat} (h : resolve steps start goal = .ok chain) (hk : EndsAnew start chain k) :
    resolve steps start (reached start (chain.take k)) = .ok (chain.take k) := by
  obtain ⟨rfl, -⟩ := resolve_eq_ok_iff_taken.mp h
  have htaken : taken steps start (reached start ((taken steps start goal).take k)) =
      (taken steps start goal).take k := scan_take hk
  exact resolve_eq_ok_iff_taken.mpr ⟨htaken, by rw [stop, htaken]⟩

/-- A pair of versions that is resolved keeps its chain, whatever is registered later.  A version that the chain
reaches for the first time behind `k` of its steps is resolved from `start` to these steps. -/
theorem resolve_is_stable (h : resolve steps start goal = .ok chain) :
    (∀ more, resolve (steps ++ more) start goal = .ok chain) ∧
    ∀ k, EndsAnew start chain k → resolve steps start (reached start (chain.take k)) = .ok (chain.take k) :=
  ⟨resolve_append_of_ok h, fun _ => resolve_take_of_ok h⟩

/-- Steps whose chain comes back to a version. -/
def windingSteps : List Step := [.noop "A" "B", .noop "B" "C", .noop "C" "B", .noop "B" "D"]

theorem windingSteps_stable :
    resolve windingSteps ⟨"A"⟩ ⟨"D"⟩ = .ok (register 0 windingSteps) ∧
      resolve (windingSteps ++ [.noop "A" "D"]) ⟨"A"⟩ ⟨"D"⟩ = .ok (register 0 windingSteps) ∧
      EndsAnew ⟨"A"⟩ (register 0 windingSteps) 2 ∧
      resolve windingSteps ⟨"A"⟩ ⟨"C"⟩ = .ok ((register 0 windingSteps).take 2) := by
  have h : resolve windingSteps ⟨"A"⟩ ⟨"D"⟩ = .ok (register 0 windingSteps) := by rfl
  have hnew : EndsAnew ⟨"A"⟩ (register 0 windingSteps) 2 := by decide
  exact ⟨h, (resolve_is_stable h).1 [.noop "A" "D"], hnew, (resolve_is_stable h).2 2 hnew⟩

end ConfigMigration.Chain

import ConfigMigration.Proofs.Migration.Registration

/-!
# Paths through registered steps

The chain that is resolved is a path: its steps are registered in the order in which they are taken, and each of them
leaves the version that the one before it reaches (`isPath_of_resolve`).  The converse fails in general, since a pass
takes the first step that goes on and never goes back.  Where at most one step leaves each version nothing is lost:
every path begins with the only step that leaves its first version, so the pass walks along it until the wanted
version is reached (`scan_of_isPath`), and a pair is resolved if and only if there is a path
(`resolve_isOk_iff_exists_path`).
-/

namespace ConfigMigration.Chain

variable {steps path : List Step} {chain : List Registered} {start goal v : Version}

/-- Whether each step leaves the version that the one before it reaches, from `start` on and up to `goal`. -/
def IsPath (start goal : Version) : List Step → Prop
  | [] => start = goal
  | s :: path => s.fromVersion = start ∧ IsPath s.toVersion goal path

instance decidableIsPath (goal : Version) :
    (path : List Step) → (start : Version) → Decidable (IsPath start goal path)
  | [], start => inferInstanceAs (Decidable (start = goal))
  | s :: path, start =>
    have : Decidable (IsPath s.toVersion goal path) := decidableIsPath goal path s.toVersion
    inferInstanceAs (Decidable (s.fromVersion = start ∧ IsPath s.toVersion goal path))

theorem map_step_register (k : Nat) (steps : List Step) : (register k steps).map Registered.step = steps := by
  induction steps generalizing k with
  | nil => rfl
  | cons s steps ih => rw [register, List.map_cons, ih]

/-! ### Chains are paths -/

theorem scan_sublist (goal v : Version) (l : List Registered) : (scan goal v l).Sublist l := by
  induction l generalizing v with
  | nil => exact List.Sublist.refl []
  | cons r l ih =>
    rw [scan]
    split
    · exact List.nil_sublist _
    · split
      · exact (ih r.step.toVersion).cons_cons r
      · exact (ih v).cons r

theorem isPath_scan (goal v : Version) (l : List Registered) :
    IsPath v (reached v (scan goal v l)) ((scan goal v l).map Registered.step) := by
  induction l generalizing v with
  | nil => rfl
  | cons r l ih =>
    rw [scan]
    split
    · rfl
    · split
      · rename_i hleaves
        rw [reached_cons, List.map_cons]
        exact ⟨hleaves, ih r.step.toVersion⟩
      · exact ih v

/-- The chain of a pair is a path through steps in the order of their registration, whatever else is registered. -/
theorem isPath_of_resolve (h : resolve steps start goal = .ok chain) :
    (chain.map Registered.step).Sublist steps ∧ IsPath start goal (chain.map Registered.step) := by
  obtain ⟨rfl, hstop⟩ := resolve_eq_ok_iff_taken.mp h
  have hsub := (scan_sublist goal start (register 0 steps)).map Registered.step
  have hpath := isPath_scan goal start (register 0 steps)
  rw [map_step_register] at hsub
  change IsPath start (stop steps start goal) _ at hpath
  rw [hstop] at hpath
  exact ⟨hsub, hpath⟩

/-! ### Paths without a choice -/

/-- A pass walks along every path to the wanted version, and stops where the path reaches it first. -/
theorem scan_of_isPath {l : List Registered} (hl : (l.map fun r => r.step.fromVersion).Nodup)
    (hsub : path.Sublist (l.map Registered.step)) (hpath : IsPath v goal path) :
    reached v (scan goal v l) = goal ∧ (scan goal v l).map Registered.step <+: path := by
  induction l generalizing v path with
  | nil =>
    rw [List.map_nil, List.sublist_nil] at hsub
    subst hsub
    exact ⟨hpath, List.nil_prefix⟩
  | cons r l ih =>
    rw [List.map_cons, List.nodup_cons] at hl
    by_cases hgoal : v = goal
    · subst hgoal
      rw [scan_self]
      exact ⟨rfl, List.nil_prefix⟩
    · obtain ⟨s, path, rfl⟩ : ∃ s rest, path = s :: rest := by
        cases path with
        | nil => exact absurd hpath hgoal
        | cons s rest => exact ⟨s, rest, rfl⟩
      obtain ⟨hleaves, hrest⟩ := hpath
      rw [scan, if_neg hgoal]
      rw [List.map_cons] at hsub
      rcases List.sublist_cons_iff.mp hsub with hlater | ⟨rest, heq, hsub'⟩
      · -- the path begins later, with a step that leaves the same version, so this one does not leave it
        obtain ⟨r', hr', rfl⟩ := List.mem_map.mp (hlater.subset (List.mem_cons_self ..))
        have hne : r.step.fromVersion ≠ v := by
          intro hr
          exact hl.1 (List.mem_map.mpr ⟨r', hr', hleaves.trans hr.symm⟩)
        rw [if_neg hne]
        exact ih hl.2 hlater ⟨hleaves, hrest⟩
      · obtain ⟨rfl, rfl⟩ := List.cons.inj heq
        obtain ⟨hreached, hprefix⟩ := ih hl.2 hsub' hrest
        rw [if_pos hleaves, reached_cons, List.map_cons]
        exact ⟨hreached, (List.prefix_cons_inj _).mpr hprefix⟩

/-- Where at most one step leaves each version, a pair of versions is resolved if and only if a path through steps in
the order of their registration joins them, and every such path begins with the chain. -/
theorem resolve_isOk_iff_exists_path (h : (steps.map Step.fromVersion).Nodup) (start goal : Version) :
    ((∃ chain, resolve steps start goal = .ok chain) ↔
      ∃ path : List Step, path.Sublist steps ∧ IsPath start goal path) ∧
    ∀ chain, resolve steps start goal = .ok chain →
      ∀ path : List Step, path.Sublist steps → IsPath start goal path → chain.map Registered.step <+: path := by
  have hl : ((register 0 steps).map fun r => r.step.fromVersion).Nodup := by
    have hmap := List.map_map (g := Step.fromVersion) (f := Registered.step) (l := register 0 steps)
    rw [map_step_register] at hmap
    exact hmap ▸ h
  have hscan : ∀ path : List Step, path.Sublist steps → IsPath start goal path →
      stop steps start goal = goal ∧ (taken steps start goal).map Registered.step <+: path := by
    intro path hsub hpath
    rw [← map_step_register 0 steps] at hsub
    exact scan_of_isPath hl hsub hpath
  constructor
  · constructor
    · rintro ⟨chain, hok⟩
      exact ⟨chain.map Registered.step, isPath_of_resolve hok⟩
    · rintro ⟨path, hsub, hpath⟩
      exact ⟨_, resolve_eq_ok_iff_taken.mpr ⟨rfl, (hscan path hsub hpath).1⟩⟩
  · intro chain hok path hsub hpath
    obtain ⟨rfl, -⟩ := resolve_eq_ok_iff_taken.mp hok
    exact (hscan path hsub hpath).2

/-- Two lineages, one of which goes round in a circle. -/
def woundSteps : List Step :=
  [.noop "A" "B", .noop "X" "Y", .noop "B" "C", .noop "Y" "X", .noop "C" "A", .noop "D" "D"]

theorem woundSteps_resolve :
    (woundSteps.map Step.fromVersion).Nodup ∧
      (∃ chain, resolve woundSteps ⟨"A"⟩ ⟨"C"⟩ = .ok chain) ∧
      ¬∃ path : List Step, path.Sublist woundSteps ∧ IsPath ⟨"C"⟩ ⟨"B"⟩ path := by
  have h : (woundSteps.map Step.fromVersion).Nodup := by decide
  have hpath : ∃ path : List Step, path.Sublist woundSteps ∧ IsPath ⟨"A"⟩ ⟨"C"⟩ path :=
    ⟨[.noop "A" "B", .noop "B" "C"], .cons_cons _ (.cons _ (.cons_cons _ (List.nil_sublist _))), by decide⟩
  refine ⟨h, (resolve_isOk_iff_exists_path h ⟨"A"⟩ ⟨"C"⟩).1.mpr hpath, ?_⟩
  intro hback
  obtain ⟨chain, hok⟩ := (resolve_isOk_iff_exists_path h ⟨"C"⟩ ⟨"B"⟩).1.mpr hback
  have hstuck : resolve woundSteps ⟨"C"⟩ ⟨"B"⟩ = .error ⟨⟨"B"⟩⟩ := by rfl
  rw [hstuck] at hok
  cases hok

end ConfigMigration.Chain

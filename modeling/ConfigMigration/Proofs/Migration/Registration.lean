import ConfigMigration.Migration.Scripted
import ConfigMigration.Proofs.Migration.Resolution

/-!
# Registering one more step

A step that is registered behind the others is taken only where the pass over the others stops short at the version it
leaves (`taken_concat`).  If its two versions are registered already, this changes the resolution of a pair in one
case only: the earlier copy was passed over before its version was reached, and the new copy leads from there to the
wanted version (`resolve_concat_of_registered`).  A pair that is resolved keeps its chain.
-/

namespace ConfigMigration.Chain

variable {steps : List Step} {d : Step} {start goal : Version}

/-- A step is late for two versions: the pass between them stops short at the version that the step leaves, and the
step leads to the second one. -/
structure IsLate (steps : List Step) (d : Step) (start goal : Version) : Prop where
  ne : start ≠ goal
  short : stop steps start goal ≠ goal
  leaves : d.fromVersion = stop steps start goal
  leads : d.toVersion = goal

/-! ### The pass over one more step -/

theorem taken_append (steps more : List Step) (start goal : Version) :
    taken (steps ++ more) start goal =
      taken steps start goal ++ scan goal (stop steps start goal) (register steps.length more) := by
  unfold taken
  rw [register_append, scan_append, Nat.zero_add]
  rfl

theorem taken_concat (steps : List Step) (d : Step) (start goal : Version) :
    taken (steps ++ [d]) start goal =
      taken steps start goal ++
        if stop steps start goal ≠ goal ∧ d.fromVersion = stop steps start goal then [⟨steps.length, d⟩] else [] := by
  rw [taken_append]
  congr 1
  change scan goal (stop steps start goal) [⟨steps.length, d⟩] = _
  rw [scan]
  by_cases hgoal : stop steps start goal = goal
  · simp [hgoal]
  · by_cases hleaves : d.fromVersion = stop steps start goal <;> simp [hgoal, hleaves, scan]

theorem stop_concat_of_taken (h : taken (steps ++ [d]) start goal = taken steps start goal ++ [⟨steps.length, d⟩]) :
    stop (steps ++ [d]) start goal = d.toVersion := by
  unfold stop
  rw [h, reached_append, reached_cons]
  rfl

/-! ### Resolution behind it -/

theorem resolve_of_taken_eq {more : List Step} (h : taken more start goal = taken steps start goal) :
    resolve more start goal = resolve steps start goal := by
  unfold taken at h
  unfold resolve
  simp only [h]

theorem resolve_of_stop_ne (hne : start ≠ goal) (hleaves : ∃ s ∈ steps, s.fromVersion = start)
    (h : stop steps start goal ≠ goal) : resolve steps start goal = .error ⟨goal⟩ := by
  rcases resolve_cases hne with ⟨hnone, -, -⟩ | ⟨-, hstop, -⟩ | ⟨-, -, hresolve⟩
  · obtain ⟨s, hs, hstart⟩ := hleaves
    exact absurd hstart (hnone s hs)
  · exact absurd hstop h
  · exact hresolve

/-- A step that is taken behind the others leaves `start` only if one of the others does, where its versions are
registered already. -/
theorem exists_leaving_of_registered (h : ∃ s ∈ steps, s.Connects d.fromVersion d.toVersion) (hne : start ≠ goal)
    (hleaves : d.fromVersion = stop steps start goal) : ∃ s ∈ steps, s.fromVersion = start := by
  by_cases hnil : taken steps start goal = []
  · have hstop : stop steps start goal = start := by
      rw [stop, hnil]
      rfl
    obtain ⟨s, hs, hfrom, -⟩ := h
    exact ⟨s, hs, by rw [hfrom, hleaves, hstop]⟩
  · rw [taken_eq_nil_iff hne] at hnil
    push Not at hnil
    exact hnil

/-- Registering a step whose two versions are registered already.  Where the step is late, a pair that was not
resolved gets a chain that ends with the step; every other resolution stays as it is. -/
theorem resolve_concat_of_registered (h : ∃ s ∈ steps, s.Connects d.fromVersion d.toVersion)
    (start goal : Version) :
    (IsLate steps d start goal →
      resolve steps start goal = .error ⟨goal⟩ ∧
        resolve (steps ++ [d]) start goal = .ok (taken steps start goal ++ [⟨steps.length, d⟩])) ∧
    (¬IsLate steps d start goal → resolve (steps ++ [d]) start goal = resolve steps start goal) := by
  have htaken := taken_concat steps d start goal
  constructor
  · rintro ⟨hne, hshort, hleaves, hleads⟩
    rw [if_pos ⟨hshort, hleaves⟩] at htaken
    have hstop := stop_concat_of_taken htaken
    have hstart := exists_leaving_of_registered h hne hleaves
    rw [← htaken]
    exact ⟨resolve_of_stop_ne hne hstart hshort, resolve_eq_ok_iff_taken.mpr ⟨rfl, hstop.trans hleads⟩⟩
  · intro hlate
    by_cases hne : start = goal
    · subst hne
      rw [resolve_self, resolve_self]
    by_cases hon : stop steps start goal ≠ goal ∧ d.fromVersion = stop steps start goal
    · -- the step is taken, but it does not lead to the wanted version, so the pass stops short again
      obtain ⟨hshort, hleaves⟩ := hon
      rw [if_pos ⟨hshort, hleaves⟩] at htaken
      have hstop := stop_concat_of_taken htaken
      have hshort' : stop (steps ++ [d]) start goal ≠ goal := by
        rw [hstop]
        exact fun hleads => hlate ⟨hne, hshort, hleaves, hleads⟩
      obtain ⟨s, hs, hstart⟩ := exists_leaving_of_registered h hne hleaves
      rw [resolve_of_stop_ne hne ⟨s, hs, hstart⟩ hshort,
        resolve_of_stop_ne hne ⟨s, List.mem_append_left _ hs, hstart⟩ hshort']
    · rw [if_neg hon, List.append_nil] at htaken
      exact resolve_of_taken_eq htaken

/-! ### A copy behind the step that leads to it -/

/-- Two steps that are registered in the wrong order. -/
def crossedSteps : List Step := [.noop "B" "C", .noop "A" "B"]

theorem crossedSteps_concat :
    (∃ s ∈ crossedSteps, s.Connects ⟨"B"⟩ ⟨"C"⟩) ∧
      resolve (crossedSteps ++ [.noop "B" "C"]) ⟨"A"⟩ ⟨"B"⟩ = resolve crossedSteps ⟨"A"⟩ ⟨"B"⟩ ∧
      IsLate crossedSteps (.noop "B" "C") ⟨"A"⟩ ⟨"C"⟩ ∧
      resolve (crossedSteps ++ [.noop "B" "C"]) ⟨"A"⟩ ⟨"C"⟩ =
        .ok (taken crossedSteps ⟨"A"⟩ ⟨"C"⟩ ++ [⟨2, .noop "B" "C"⟩]) := by
  have h : ∃ s ∈ crossedSteps, s.Connects ⟨"B"⟩ ⟨"C"⟩ := ⟨_, List.mem_cons_self .., rfl, rfl⟩
  have hlate : IsLate crossedSteps (.noop "B" "C") ⟨"A"⟩ ⟨"C"⟩ := ⟨by decide, by decide, by decide, by decide⟩
  have hnot : ¬IsLate crossedSteps (.noop "B" "C") ⟨"A"⟩ ⟨"B"⟩ := fun hlate => absurd hlate.leads (by decide)
  exact ⟨h, (resolve_concat_of_registered h ⟨"A"⟩ ⟨"B"⟩).2 hnot, hlate,
    ((resolve_concat_of_registered h ⟨"A"⟩ ⟨"C"⟩).1 hlate).2⟩

/-- The earlier copy is passed over, and the later one makes a chain where there was none. -/
theorem late_duplicate_is_taken :
    (∃ s ∈ crossedSteps, s.Connects ⟨"B"⟩ ⟨"C"⟩) ∧
      resolve crossedSteps ⟨"A"⟩ ⟨"C"⟩ = .error ⟨⟨"C"⟩⟩ ∧
      resolve (crossedSteps ++ [.noop "B" "C"]) ⟨"A"⟩ ⟨"C"⟩ =
        .ok [⟨1, .noop "A" "B"⟩, ⟨2, .noop "B" "C"⟩] :=
  ⟨⟨_, List.mem_cons_self .., rfl, rfl⟩, by rfl, by rfl⟩

end ConfigMigration.Chain

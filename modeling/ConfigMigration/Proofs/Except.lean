/-!
# Computations that may fail

How two parts of a computation that may fail come together: it succeeds only if each part does, and it cannot tell
first parts apart that look alike to the second one.
-/

namespace ConfigMigration

variable {ε α β γ : Type}

theorem exists_of_bind_eq_ok {x : Except ε α} {f : α → Except ε β} {b : β} (h : x >>= f = .ok b) :
    ∃ a, x = .ok a ∧ f a = .ok b := by
  cases x with
  | error e => cases h
  | ok a => exact ⟨a, rfl, h⟩

/-- Two computations that fail alike, or whose results look alike under `f`, can be continued with whatever depends
on this look alone. -/
theorem bind_eq_bind_of_map_eq {x y : Except ε α} {f : α → γ} (h : f <$> x = f <$> y) {g : α → Except ε β}
    (hg : ∀ a b, f a = f b → g a = g b) : x >>= g = y >>= g := by
  cases x with
  | error e =>
    cases y with
    | error e' =>
      cases h
      rfl
    | ok b => cases h
  | ok a =>
    cases y with
    | error e => cases h
    | ok b => exact hg a b (Except.ok.inj h)

end ConfigMigration

import ConfigMigration.Proofs.Path.Segments

/-!
# Paths of composed texts

The path of two texts with a slash between them is the path of the first text with that of the second one behind it,
if the first text leaves no bracket open (`parse_append_slash`).  The texts need not be well-formed beyond this: they
may hold stray closing brackets, slashes in brackets, empty segments and any characters.
-/

namespace ConfigMigration.Path

theorem ofChars_append_slash {s : List Char} (h : depthBehind 0 s = 0) (t : List Char) :
    ofChars (s ++ '/' :: t) = (ofChars s).join (ofChars t) := by
  have hsegments : segments (s ++ '/' :: t) = segments s ++ segments t := segmentsFrom_append_slash h t
  unfold ofChars join
  rw [hsegments, List.filter_append, List.map_append]

/-- A text that leaves no bracket open gives its elements whatever stands behind the slash that follows it. -/
theorem parse_append_slash {s : String} (h : depthBehind 0 s.toList = 0) (t : String) :
    parse (s ++ "/" ++ t) = (parse s).join (parse t) := by
  have htext : (s ++ "/" ++ t).toList = s.toList ++ '/' :: t.toList := by simp
  unfold parse
  rw [htext]
  exact ofChars_append_slash h t.toList

/-- Two closing brackets are left over in the first text, a key value holds a slash, a segment is empty, and the
second text leaves a bracket open. -/
theorem parse_stray_brackets :
    depthBehind 0 "]a[k=x/y]]//ü[b]".toList = 0 ∧
    (parse ("]a[k=x/y]]//ü[b]" ++ "/" ++ "c[=/d")).elems =
      [{ name := "]a", keys := .ofList [("k", "x/y")] }, { name := "ü" }, { name := "c" }] := by
  have hdepth : depthBehind 0 "]a[k=x/y]]//ü[b]".toList = 0 := by decide
  refine ⟨hdepth, ?_⟩
  rw [parse_append_slash hdepth]
  decide +kernel

/-- Inside of a bracket the slash does not cut. -/
example : (parse ("a[" ++ "/" ++ "b")).length = 1 ∧ ((parse "a[").join (parse "b")).length = 2 := ⟨rfl, rfl⟩

end ConfigMigration.Path

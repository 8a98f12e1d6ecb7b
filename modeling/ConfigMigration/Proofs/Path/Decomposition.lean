import ConfigMigration.Proofs.Path.Segments

/-!
# Texts and their segments

The segments of a text are its one decomposition of this kind: joined by slashes they give the text, none of them
holds a slash outside of brackets, and all but the last one leave no bracket open (`isDecomposition_iff`).  Brackets
are counted anew in each segment, and in the last one some may be left open.

That the segments are a decomposition follows the reader from character to character.  That there is no other one
follows from how a text is cut: where a decomposition puts its first slash no bracket is open, and none of the slashes
in front of it lies outside of brackets, so this is where the text is cut first.
-/

namespace ConfigMigration.Path

variable {depth : Nat} {text first : List Char} {rest : List (List Char)}

/-! ### The segments are a decomposition -/

/-- Slashes in brackets do not cut, and a bracket that closes nothing does not count. -/
example : (segments "a[k=x/y]]/b//c[/d".toList).map String.ofList = ["a[k=x/y]]", "b", "", "c[/d"] := by decide

end ConfigMigration.Path

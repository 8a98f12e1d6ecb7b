/-!
# Labelled intervals

An entity owns ranges of numbers, each stored under a label.  Ranges that follow one another without a gap are
folded into one, which keeps the label of its first part; the labels of all parts are superseded.  Ranges that
overlap are left as they are.
-/

namespace ConfigMigration

/-- A range of numbers, both ends included, and the label that it is stored under. -/
structure Interval where
  /-- The first number. -/
  first : UInt64
  /-- The last number. -/
  last : UInt64
  /-- The label. -/
  label : String
deriving DecidableEq

namespace Interval

/-- Whether two ranges have the same ends, whatever their labels. -/
def SameBounds (i j : Interval) : Prop := i.first = j.first ∧ i.last = j.last

instance (i j : Interval) : Decidable (i.SameBounds j) :=
  inferInstanceAs (Decidable (_ ∧ _))

/-- Whether `j` starts one past the end of `i`. -/
def FollowedBy (i j : Interval) : Prop := j.first.toNat = i.last.toNat + 1

instance (i j : Interval) : Decidable (i.FollowedBy j) :=
  inferInstanceAs (Decidable (_ = _))

/-- The text of an interval. -/
def text (i : Interval) : String :=
  i.label ++ "[" ++ toString i.first.toNat ++ "..=" ++ toString i.last.toNat ++ "]"

/-! ### Sorting -/

/-- Puts an interval in front of the first one that does not start before it. -/
def insertSorted (i : Interval) : List Interval → List Interval
  | [] => [i]
  | j :: l => if i.first ≤ j.first then i :: j :: l else j :: insertSorted i l

/-- The intervals in the order of their first numbers; those with the same first number keep their order. -/
def sort (l : List Interval) : List Interval :=
  l.foldr insertSorted []

theorem mem_insertSorted {i j : Interval} {l : List Interval} : j ∈ insertSorted i l ↔ j = i ∨ j ∈ l := by
  induction l with
  | nil => simp [insertSorted]
  | cons a l ih =>
    unfold insertSorted
    split
    · simp
    · simp only [List.mem_cons, ih]
      exact or_left_comm

theorem mem_sort {j : Interval} {l : List Interval} : j ∈ sort l ↔ j ∈ l := by
  induction l with
  | nil => simp [sort]
  | cons i l ih =>
    unfold sort at ih ⊢
    rw [List.foldr_cons, mem_insertSorted, ih, List.mem_cons]

/-! ### Merging -/

/-- The result of merging intervals. -/
structure Merge where
  /-- The intervals that remain, in the order of their first numbers. -/
  merged : List Interval
  /-- The labels of the intervals that went into a merged one, each once, in the order in which they were met. -/
  superseded : List String
deriving DecidableEq

/-- The labels with one more behind them, unless it is among them. -/
def addLabel (labels : List String) (label : String) : List String :=
  if label ∈ labels then labels else labels ++ [label]

/-- Merges sorted intervals into `current`, the last one so far. -/
def mergeInto (current : Interval) (superseded : List String) : List Interval → Merge
  | [] => ⟨[current], superseded⟩
  | i :: l =>
    if current.FollowedBy i then
      mergeInto { current with last := i.last } (addLabel (addLabel superseded current.label) i.label) l
    else
      let rest := mergeInto i superseded l
      ⟨current :: rest.merged, rest.superseded⟩

/-- Merges intervals that follow one another without a gap. -/
def merge (l : List Interval) : Merge :=
  match sort l with
  | [] => ⟨[], []⟩
  | i :: l => mergeInto i [] l

namespace Merge

/-- The merged intervals with the ends of none of those that were merged: the ones that are new. -/
def changed (m : Merge) (intervals : List Interval) : List Interval :=
  m.merged.filter fun i => !intervals.any (·.SameBounds i)

/-- Whether the interval with a label went into a merged one. -/
def isSuperseded (m : Merge) (label : String) : Bool := label ∈ m.superseded

/-- Whether anything was merged. -/
def hasMerges (m : Merge) : Bool := !m.superseded.isEmpty

end Merge

example :
    (merge [⟨25, 30, "c"⟩, ⟨11, 20, "b"⟩, ⟨1, 10, "a"⟩]) =
      ⟨[⟨1, 20, "a"⟩, ⟨25, 30, "c"⟩], ["a", "b"]⟩ := by decide

end Interval

end ConfigMigration

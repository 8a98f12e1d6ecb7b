import ConfigMigration.Proofs.Path.Segments
import Mathlib.Algebra.GroupWithZero.Nat

/-!
# Reading back paths

Names, key names and key values are free texts, and nothing in them is escaped.  So a path is read back from its text
only if the marks of the grammar stand where the grammar puts them: `parse_text_eq_self_iff` says which paths these
are.

For one direction, the elements that are read are delimited (`isDelimited_elemOfChars`), and a bracket that an element
leaves open joins it to the next one, so that fewer elements come back (`segmentsFrom_slashed_length`).  For the other
direction, the text of a path is cut into the texts of its elements (`segments_slashed`), and each of them is read
back (`elemOfChars_chars`) unless it is empty.
-/

namespace ConfigMigration

namespace PathElem

/-- The name and the keys of an element do not hold the marks that end them. -/
structure IsDelimited (e : PathElem) : Prop where
  name : '/' ∉ e.name.toList ∧ '[' ∉ e.name.toList
  keyName : ∀ k ∈ e.keys.entries, '=' ∉ k.1.toList ∧ ']' ∉ k.1.toList
  keyValue : ∀ k ∈ e.keys.entries, ']' ∉ k.2.toList

/-- The keys of an element hold no bracket that would stay open. -/
def IsClosed (e : PathElem) : Prop := ∀ k ∈ e.keys.entries, '[' ∉ k.1.toList ∧ '[' ∉ k.2.toList

/-- What stands between the brackets of a key. -/
def keyGroup (key : String × String) : List Char := key.1.toList ++ '=' :: key.2.toList

theorem keyText_eq (key : String × String) : keyText key = '[' :: (keyGroup key ++ [']']) := by
  simp [keyText, keyGroup]

theorem IsDelimited.not_mem_keyGroup {e : PathElem} (h : e.IsDelimited) {k : String × String}
    (hk : k ∈ e.keys.entries) : ']' ∉ keyGroup k := by
  simp [keyGroup, (h.keyName k hk).2, h.keyValue k hk]

theorem chars_eq_nil_iff (e : PathElem) : e.chars = [] ↔ e.name = "" ∧ e.keys.entries = [] := by
  unfold chars
  rw [List.append_eq_nil_iff, String.toList_eq_nil_iff, List.flatMap_eq_nil_iff]
  constructor
  · rintro ⟨hname, hkeys⟩
    refine ⟨hname, List.eq_nil_iff_forall_not_mem.mpr ?_⟩
    intro k hk
    have hnil := hkeys k hk
    rw [keyText_eq] at hnil
    cases hnil
  · rintro ⟨hname, hkeys⟩
    rw [hkeys]
    exact ⟨hname, by simp⟩

end PathElem

namespace Path

open PathElem

/-! ### Groups -/

theorem groupsInside_append {s : List Char} (h : ']' ∉ s) (reversed rest : List Char) :
    groupsInside reversed (s ++ ']' :: rest) = (reversed.reverse ++ s) :: groups rest := by
  induction s generalizing reversed with
  | nil => simp [groupsInside]
  | cons c s ih =>
    rw [List.mem_cons, not_or] at h
    rw [List.cons_append, groupsInside, if_neg (Ne.symm h.1), ih h.2]
    simp

theorem groups_keyTexts {keys : List (String × String)} (h : ∀ k ∈ keys, ']' ∉ keyGroup k) :
    groups (keys.flatMap keyText) = keys.map keyGroup := by
  induction keys with
  | nil => rfl
  | cons k keys ih =>
    rw [List.forall_mem_cons] at h
    rw [List.flatMap_cons, keyText_eq, List.cons_append, groups, if_pos rfl, List.append_assoc, List.singleton_append,
      groupsInside_append h.1, ih h.2]
    rfl

/-- A group ends in front of the first closing bracket. -/
theorem not_mem_of_mem_groups (text : List Char) :
    (∀ g ∈ groups text, ']' ∉ g) ∧ ∀ reversed, ']' ∉ reversed → ∀ g ∈ groupsInside reversed text, ']' ∉ g := by
  induction text with
  | nil => exact ⟨by simp [groups], by simp [groupsInside]⟩
  | cons c text ih =>
    constructor
    · intro g hg
      rw [groups] at hg
      split at hg
      · exact ih.2 [] List.not_mem_nil g hg
      · cases hg
    · intro reversed hreversed g hg
      rw [groupsInside] at hg
      split at hg
      · rcases List.mem_cons.mp hg with rfl | hg
        · simpa using hreversed
        · exact ih.1 g hg
      · rename_i hc
        refine ih.2 (c :: reversed) ?_ g hg
        rw [List.mem_cons, not_or]
        exact ⟨fun heq => hc heq.symm, hreversed⟩

/-! ### Elements -/

theorem splitKey?_keyGroup {k : String × String} (h : '=' ∉ k.1.toList) : splitKey? (keyGroup k) = some k := by
  have hname : ∀ c ∈ k.1.toList, decide (c ≠ '=') = true := by
    intro c hc
    rw [decide_eq_true_eq]
    rintro rfl
    exact h hc
  unfold splitKey? keyGroup
  rw [if_pos (by simp), List.takeWhile_append_of_pos hname, List.dropWhile_append_of_pos hname]
  simp

theorem filterMap_keyGroups {keys : List (String × String)} (h : ∀ k ∈ keys, '=' ∉ k.1.toList) :
    (keys.map keyGroup).filterMap splitKey? = keys := by
  induction keys with
  | nil => rfl
  | cons k keys ih =>
    rw [List.forall_mem_cons] at h
    rw [List.map_cons, List.filterMap_cons_some (splitKey?_keyGroup h.1), ih h.2]

theorem not_mem_of_splitKey? {g : List Char} (hg : ']' ∉ g) {k : String × String} (h : splitKey? g = some k) :
    ('=' ∉ k.1.toList ∧ ']' ∉ k.1.toList) ∧ ']' ∉ k.2.toList := by
  unfold splitKey? at h
  split at h
  · cases h
    simp only [String.toList_ofList]
    refine ⟨⟨?_, ?_⟩, ?_⟩
    · intro hmem
      simpa using List.mem_takeWhile_imp hmem
    · intro hmem
      exact hg (List.takeWhile_subset _ hmem)
    · intro hmem
      exact hg ((List.dropWhile_sublist _).subset (List.mem_of_mem_drop hmem))
  · cases h

/-- The element that is read from a segment is delimited. -/
theorem isDelimited_elemOfChars {segment : List Char} (h : Uncut 0 segment) : (elemOfChars segment).IsDelimited := by
  have hkey : ∀ k ∈ (elemOfChars segment).keys.entries,
      ('=' ∉ k.1.toList ∧ ']' ∉ k.1.toList) ∧ ']' ∉ k.2.toList := by
    intro k hk
    obtain ⟨g, hg, hsplit⟩ := List.mem_filterMap.mp (Dictionary.mem_of_mem_ofList hk)
    exact not_mem_of_splitKey? ((not_mem_of_mem_groups _).1 g hg) hsplit
  refine ⟨?_, fun k hk => (hkey k hk).1, fun k hk => (hkey k hk).2⟩
  have hopen : '[' ∉ segment.takeWhile (· ≠ '[') := by
    intro hmem
    simpa using List.mem_takeWhile_imp hmem
  rw [← List.takeWhile_append_dropWhile (p := (· ≠ '[')) (l := segment), uncut_append] at h
  change '/' ∉ (String.ofList _).toList ∧ '[' ∉ (String.ofList _).toList
  rw [String.toList_ofList]
  exact ⟨not_mem_of_uncut h.1 hopen, hopen⟩

/-- A delimited element is read back from its text. -/
theorem elemOfChars_chars {e : PathElem} (h : e.IsDelimited) : elemOfChars e.chars = e := by
  have hname : ∀ c ∈ e.name.toList, decide (c ≠ '[') = true := by
    intro c hc
    rw [decide_eq_true_eq]
    rintro rfl
    exact h.name.2 hc
  have htake : (e.keys.entries.flatMap keyText).takeWhile (· ≠ '[') = [] := by
    cases e.keys.entries <;> simp [keyText]
  have hdrop : (e.keys.entries.flatMap keyText).dropWhile (· ≠ '[') = e.keys.entries.flatMap keyText := by
    cases e.keys.entries <;> simp [keyText]
  unfold elemOfChars PathElem.chars
  rw [List.takeWhile_append_of_pos hname, List.dropWhile_append_of_pos hname, htake, hdrop, List.append_nil,
    groups_keyTexts fun k hk => h.not_mem_keyGroup hk, filterMap_keyGroups fun k hk => (h.keyName k hk).1,
    Keys.ofList_entries, String.ofList_toList]

/-! ### Brackets of an element -/

theorem depthBehind_keyText {k : String × String} (h : ']' ∉ keyGroup k) (depth : Nat) :
    depthBehind depth (keyText k) = depth + (keyGroup k).count '[' := by
  rw [keyText_eq, depthBehind_cons, depthBehind_append, depthBehind_of_not_mem_close h]
  change depth + 1 + _ - 1 = _
  omega

theorem depthBehind_keyTexts {keys : List (String × String)} (h : ∀ k ∈ keys, ']' ∉ keyGroup k) (depth : Nat) :
    depthBehind depth (keys.flatMap keyText) = depth + (keys.map fun k => (keyGroup k).count '[').sum := by
  induction keys generalizing depth with
  | nil => rfl
  | cons k keys ih =>
    rw [List.forall_mem_cons] at h
    rw [List.flatMap_cons, depthBehind_append, depthBehind_keyText h.1, ih h.2, List.map_cons, List.sum_cons,
      Nat.add_assoc]

/-- Every bracket of a delimited element is closed behind it if its keys hold none. -/
theorem depthBehind_chars_eq_zero_iff {e : PathElem} (h : e.IsDelimited) :
    depthBehind 0 e.chars = 0 ↔ e.IsClosed := by
  unfold PathElem.chars
  rw [depthBehind_append, depthBehind_of_not_mem_open h.name.2,
    depthBehind_keyTexts fun k hk => h.not_mem_keyGroup hk, Nat.zero_add, List.sum_eq_zero_iff_forall_eq_nat,
    List.forall_mem_map]
  refine forall₂_congr fun k _ => ?_
  rw [List.count_eq_zero]
  simp [keyGroup]

theorem uncut_keyTexts {keys : List (String × String)} (h : ∀ k ∈ keys, ']' ∉ keyGroup k) (depth : Nat) :
    Uncut depth (keys.flatMap keyText) := by
  induction keys generalizing depth with
  | nil => trivial
  | cons k keys ih =>
    rw [List.forall_mem_cons] at h
    rw [List.flatMap_cons, uncut_append]
    refine ⟨?_, ih h.2 _⟩
    rw [keyText_eq]
    refine ⟨by simp, uncut_append.mpr ⟨uncut_inside h.1 (Nat.succ_pos _), ?_⟩⟩
    exact ⟨by simp, trivial⟩

/-- A delimited element is not cut. -/
theorem uncut_chars {e : PathElem} (h : e.IsDelimited) (depth : Nat) : Uncut depth e.chars :=
  uncut_append.mpr ⟨uncut_of_not_mem h.name.1 depth, uncut_keyTexts (fun _ hk => h.not_mem_keyGroup hk) _⟩

/-! ### Paths -/

/-- The text of an element behind a slash. -/
def slashed (e : PathElem) : List Char := '/' :: e.chars

/-- The text of delimited elements is cut in front of each of them, if each one but the last is closed. -/
theorem segments_slashed {elems : List PathElem} (h : ∀ e ∈ elems, e.IsDelimited)
    (hclosed : ∀ e ∈ elems.dropLast, e.IsClosed) :
    segments (elems.flatMap slashed) = [] :: elems.map PathElem.chars := by
  induction elems with
  | nil => rfl
  | cons e elems ih =>
    rw [List.forall_mem_cons] at h
    have hcut : segments ((e :: elems).flatMap slashed) =
        [] :: (segmentsFrom (depthBehind 0 e.chars) (elems.flatMap slashed)).modifyHead (e.chars ++ ·) := by
      rw [List.flatMap_cons, slashed, List.cons_append, segments, segmentsFrom_slash, segments,
        segmentsFrom_append (uncut_chars h.1 0)]
    rw [hcut]
    cases elems with
    | nil => simp [segmentsFrom]
    | cons e' elems =>
      rw [List.dropLast_cons_cons, List.forall_mem_cons] at hclosed
      rw [(depthBehind_chars_eq_zero_iff h.1).mpr hclosed.1]
      have hrest := ih h.2 hclosed.2
      rw [segments] at hrest
      rw [hrest, List.modifyHead_cons, List.append_nil]
      rfl

/-- Delimited elements are cut at most in front of each of them.  They are cut that often only if no bracket is open
at the beginning and each one but the last is closed. -/
theorem segmentsFrom_slashed_length {elems : List PathElem} (h : ∀ e ∈ elems, e.IsDelimited) (depth : Nat) :
    (segmentsFrom depth (elems.flatMap slashed)).length ≤ elems.length + 1 ∧
      (elems.length + 1 ≤ (segmentsFrom depth (elems.flatMap slashed)).length →
        (elems = [] ∨ depth = 0) ∧ ∀ e ∈ elems.dropLast, e.IsClosed) := by
  induction elems generalizing depth with
  | nil => simp [segmentsFrom]
  | cons e elems ih =>
    rw [List.forall_mem_cons] at h
    rw [List.flatMap_cons, slashed, List.cons_append]
    by_cases hdepth : depth = 0
    · subst hdepth
      obtain ⟨hle, hclosed⟩ := ih h.2 (depthBehind 0 e.chars)
      rw [segmentsFrom_slash, segments, segmentsFrom_append (uncut_chars h.1 0), List.length_cons,
        List.length_modifyHead, List.length_cons]
      refine ⟨by omega, fun hlength => ⟨.inr rfl, ?_⟩⟩
      obtain ⟨hdepth', hrest⟩ := hclosed (by omega)
      cases elems with
      | nil => simp
      | cons e' elems =>
        have hzero := hdepth'.resolve_left (List.cons_ne_nil _ _)
        rw [List.dropLast_cons_cons, List.forall_mem_cons]
        exact ⟨(depthBehind_chars_eq_zero_iff h.1).mp hzero, hrest⟩
    · -- inside of brackets the slash in front of the element does not cut
      have huncut : Uncut depth ('/' :: e.chars) := ⟨fun hcut => hdepth hcut.2, uncut_chars h.1 _⟩
      have hle := (ih h.2 (depthBehind depth ('/' :: e.chars))).1
      rw [← List.cons_append, segmentsFrom_append huncut, List.length_modifyHead, List.length_cons]
      exact ⟨by omega, fun hlength => by omega⟩

theorem parse_text (p : Path) : parse p.text = ofChars p.chars := by
  rw [parse, text, String.toList_ofList]

/-- The elements of a path that is read back are delimited. -/
theorem isDelimited_of_mem_ofChars {text : List Char} {e : PathElem} (h : e ∈ (ofChars text).elems) :
    e.IsDelimited := by
  obtain ⟨segment, hsegment, rfl⟩ := List.mem_map.mp h
  exact isDelimited_elemOfChars (uncut_of_mem_segments (List.mem_filter.mp hsegment).1)

theorem ofChars_chars (p : Path) : ofChars p.chars = ofChars (p.elems.flatMap slashed) := by
  unfold chars
  cases p.elems <;> rfl

/-- The segment in front of the first slash is empty and gives no element. -/
theorem length_ofChars_slashed (elems : List PathElem) :
    (ofChars (elems.flatMap slashed)).elems.length + 1 ≤ (segments (elems.flatMap slashed)).length := by
  obtain ⟨tail, htail⟩ : ∃ tail, segments (elems.flatMap slashed) = [] :: tail := by
    cases elems with
    | nil => exact ⟨[], rfl⟩
    | cons e elems => exact ⟨_, segmentsFrom_slash _⟩
  have hle := List.length_filter_le (fun segment : List Char => !segment.isEmpty) tail
  unfold ofChars
  rw [htail, List.filter_cons_of_neg (by simp), List.length_map, List.length_cons]
  omega

/-- Of elements that are cut apart, those with a text are read back. -/
theorem elems_ofChars_slashed {elems : List PathElem} (h : ∀ e ∈ elems, e.IsDelimited)
    (hclosed : ∀ e ∈ elems.dropLast, e.IsClosed) :
    (ofChars (elems.flatMap slashed)).elems = elems.filter fun e => !e.chars.isEmpty := by
  have hread : ∀ e ∈ elems.filter fun e => !e.chars.isEmpty, (elemOfChars ∘ PathElem.chars) e = id e := by
    intro e he
    exact elemOfChars_chars (h e (List.mem_filter.mp he).1)
  unfold ofChars
  rw [segments_slashed h hclosed, List.filter_cons_of_neg (by simp), List.filter_map, List.map_map]
  exact (List.map_congr_left hread).trans (List.map_id _)

/-- Which paths are read back from their text: those without a target whose names and keys do not hold the marks that
end them, with no empty element, and with an opening bracket in no key but those of the last element. -/
theorem parse_text_eq_self_iff (p : Path) :
    parse p.text = p ↔
      p.target = none ∧
        (∀ e ∈ p.elems,
          (e.name ≠ "" ∨ e.keys.entries ≠ []) ∧ ('/' ∉ e.name.toList ∧ '[' ∉ e.name.toList) ∧
            (∀ k ∈ e.keys.entries, '=' ∉ k.1.toList ∧ ']' ∉ k.1.toList) ∧ ∀ k ∈ e.keys.entries, ']' ∉ k.2.toList) ∧
        ∀ e ∈ p.elems.dropLast, ∀ k ∈ e.keys.entries, '[' ∉ k.1.toList ∧ '[' ∉ k.2.toList := by
  rw [parse_text, ofChars_chars]
  constructor
  · intro h
    have helems : (ofChars (p.elems.flatMap slashed)).elems = p.elems := congrArg Path.elems h
    have hdelimited : ∀ e ∈ p.elems, e.IsDelimited := by
      intro e he
      rw [← helems] at he
      exact isDelimited_of_mem_ofChars he
    have hclosed : ∀ e ∈ p.elems.dropLast, e.IsClosed := by
      -- as many elements are read as were written, so none has joined the one behind it
      have hlength := length_ofChars_slashed p.elems
      rw [helems] at hlength
      exact ((segmentsFrom_slashed_length hdelimited 0).2 hlength).2
    rw [elems_ofChars_slashed hdelimited hclosed, List.filter_eq_self] at helems
    refine ⟨(congrArg Path.target h).symm, ?_, hclosed⟩
    intro e he
    have hchars : e.chars ≠ [] := by simpa using helems e he
    rw [Ne, PathElem.chars_eq_nil_iff, not_and_or] at hchars
    exact ⟨hchars, (hdelimited e he).name, (hdelimited e he).keyName, (hdelimited e he).keyValue⟩
  · rintro ⟨htarget, hmarks, hclosed⟩
    have hdelimited : ∀ e ∈ p.elems, e.IsDelimited := by
      intro e he
      obtain ⟨-, hname, hkeyName, hkeyValue⟩ := hmarks e he
      exact ⟨hname, hkeyName, hkeyValue⟩
    have hchars : ∀ e ∈ p.elems, (!e.chars.isEmpty) = true := by
      intro e he
      have hne := (hmarks e he).1
      rw [← not_and_or, ← PathElem.chars_eq_nil_iff] at hne
      simpa using hne
    obtain ⟨target, elems⟩ := p
    cases htarget
    change (⟨none, (ofChars (elems.flatMap slashed)).elems⟩ : Path) = _
    rw [elems_ofChars_slashed hdelimited hclosed, List.filter_eq_self.mpr hchars]

end Path

end ConfigMigration

import ConfigMigration.Proofs.Identifier
import Mathlib.Data.List.SplitBy

/-!
# Names as words

What the conversion makes of a name can be said without its stages.  Only the stem of the name counts, which begins
with its first letter and keeps letters, digits and hyphens.  The stem is cut into words, at its hyphens and where a
capital follows a small letter or a digit, and the words are joined by single hyphens and put into small letters
(`convert_eq_words`).

The conversion puts its hyphens in two passes, of which the first one leaves out the capitals that follow a word it
has just passed over.  The second one finds every place, whether the first has been there or not, so together they do
what the second does alone (`splitCapitals_splitWords`).
-/

namespace ConfigMigration.Identifier

/-! ### Words -/

/-- Whether two neighbours belong to one word: a capital begins a word behind a small letter or a digit. -/
def isJoined (a b : Char) : Bool := !(isWordChar a && isCapital b)

/-- The words of some characters, cut at hyphens and between neighbours that do not belong to one word. -/
def words (cs : List Char) : List (List Char) := (cs.splitOn '-').flatMap (List.splitBy isJoined)

/-- What is kept of a name, from its first letter on. -/
def stem (s : String) : List Char := (s.toList.filter isKept).dropWhile fun c => !isLetter c

private theorem splitOn_hyphen (cs : List Char) : ('-' :: cs).splitOn '-' = [] :: cs.splitOn '-' := by
  rw [List.splitOn_eq_splitOnP, List.splitOn_eq_splitOnP, List.splitOnP_cons_eq_if_modifyHead,
    if_pos (beq_self_eq_true _)]

private theorem exists_splitOn_of_ne {c : Char} (h : c ≠ '-') (cs : List Char) :
    ∃ piece pieces, cs.splitOn '-' = piece :: pieces ∧ (c :: cs).splitOn '-' = (c :: piece) :: pieces := by
  obtain ⟨piece, pieces, hsplit⟩ := List.exists_cons_of_ne_nil (List.splitOnP_ne_nil (· == '-') cs)
  refine ⟨piece, pieces, hsplit, ?_⟩
  rw [List.splitOn_eq_splitOnP, List.splitOnP_cons_eq_if_modifyHead, if_neg (by simpa using h), hsplit,
    List.modifyHead_cons]

/-- The first word of a list grows by a character that belongs to it. -/
private theorem exists_splitBy {a b : Char} (h : isJoined a b = true) (cs : List Char) :
    ∃ word rest,
      (b :: cs).splitBy isJoined = word :: rest ∧ (a :: b :: cs).splitBy isJoined = (a :: word) :: rest := by
  obtain ⟨word, rest, hsplit⟩ := List.exists_cons_of_ne_nil (List.splitBy_ne_nil.mpr (List.cons_ne_nil b cs) :
    (b :: cs).splitBy isJoined ≠ [])
  refine ⟨word, rest, hsplit, ?_⟩
  obtain ⟨hflatten, hnil, hchain, hcut⟩ := List.splitBy_eq_iff.mp hsplit
  cases word with
  | nil => exact absurd (List.mem_cons_self ..) hnil
  | cons d word =>
    rw [List.flatten_cons, List.cons_append, List.cons.injEq] at hflatten
    obtain ⟨rfl, rfl⟩ := hflatten
    rw [List.forall_mem_cons] at hchain
    rw [List.splitBy_eq_iff, List.forall_mem_cons]
    refine ⟨rfl, by simpa using hnil, ⟨List.isChain_cons_cons.mpr ⟨h, hchain.1⟩, hchain.2⟩, ?_⟩
    cases rest with
    | nil => exact List.isChain_singleton _
    | cons next rest =>
      obtain ⟨⟨hb, hnext, hlast⟩, hrest⟩ := List.isChain_cons_cons.mp hcut
      exact List.isChain_cons_cons.mpr ⟨⟨List.cons_ne_nil _ _, hnext, by rwa [List.getLast_cons hb]⟩, hrest⟩

theorem words_hyphen (cs : List Char) : words ('-' :: cs) = words cs := by
  rw [words, splitOn_hyphen]
  rfl

theorem words_singleton {c : Char} (h : c ≠ '-') : words [c] = [[c]] := by
  obtain ⟨piece, pieces, hsplit, hsplit'⟩ := exists_splitOn_of_ne h []
  rw [List.splitOn_nil, List.cons.injEq] at hsplit
  obtain ⟨rfl, rfl⟩ := hsplit
  rw [words, hsplit']
  rfl

theorem words_ne_nil {c : Char} (h : c ≠ '-') (cs : List Char) : words (c :: cs) ≠ [] := by
  obtain ⟨piece, pieces, -, hsplit⟩ := exists_splitOn_of_ne h cs
  rw [words, hsplit, List.flatMap_cons]
  exact List.append_ne_nil_of_left_ne_nil (List.splitBy_ne_nil.mpr (List.cons_ne_nil c piece)) _

theorem words_cons_hyphen {c : Char} (h : c ≠ '-') (cs : List Char) : words (c :: '-' :: cs) = [c] :: words cs := by
  obtain ⟨piece, pieces, hsplit, hsplit'⟩ := exists_splitOn_of_ne h ('-' :: cs)
  rw [splitOn_hyphen, List.cons.injEq] at hsplit
  obtain ⟨rfl, rfl⟩ := hsplit
  rw [words, hsplit']
  rfl

/-- The words behind a character of a word: the character belongs to the first of them, or is a word of its own. -/
theorem words_cons_cons {c d : Char} (hc : c ≠ '-') (hd : d ≠ '-') (cs : List Char) :
    ∃ word rest, words (d :: cs) = word :: rest ∧
      words (c :: d :: cs) = if isJoined c d then (c :: word) :: rest else [c] :: word :: rest := by
  obtain ⟨piece, pieces, hsplit, hsplit'⟩ := exists_splitOn_of_ne hc (d :: cs)
  obtain ⟨piece', pieces', -, hpiece⟩ := exists_splitOn_of_ne hd cs
  rw [hpiece, List.cons.injEq] at hsplit
  obtain ⟨rfl, rfl⟩ := hsplit
  rw [words, words, hpiece, hsplit', List.flatMap_cons, List.flatMap_cons]
  by_cases hjoined : isJoined c d = true
  · obtain ⟨word, rest, hword, hword'⟩ := exists_splitBy hjoined piece'
    rw [hword, hword']
    exact ⟨word, _, rfl, (if_pos hjoined).symm⟩
  · obtain ⟨word, rest, hword⟩ := List.exists_cons_of_ne_nil (List.splitBy_ne_nil.mpr (List.cons_ne_nil d piece') :
      (d :: piece').splitBy isJoined ≠ [])
    have hcut := List.splitBy_append_cons (r := isJoined) (l := [c]) (a := d) piece' (by simpa using hjoined)
    rw [List.singleton_append, hword] at hcut
    rw [hword, hcut]
    exact ⟨word, _, rfl, (if_neg hjoined).symm⟩

/-- No character but the hyphens is lost between the words. -/
theorem flatten_words (cs : List Char) : (words cs).flatten = cs.filter (· ≠ '-') := by
  have hpieces : ∀ pieces : List (List Char), (pieces.flatMap (List.splitBy isJoined)).flatten = pieces.flatten := by
    intro pieces
    induction pieces with
    | nil => rfl
    | cons piece pieces ih => rw [List.flatMap_cons, List.flatten_append, List.flatten_splitBy, ih, List.flatten_cons]
  rw [words, hpieces]
  induction cs with
  | nil => rfl
  | cons c cs ih =>
    by_cases hc : c = '-'
    · subst hc
      rw [splitOn_hyphen, List.flatten_cons, ih]
      rfl
    · obtain ⟨piece, pieces, hsplit, hsplit'⟩ := exists_splitOn_of_ne hc cs
      rw [hsplit, List.flatten_cons] at ih
      rw [hsplit', List.flatten_cons, List.cons_append, ih, List.filter_cons_of_pos (by simpa using hc)]

/-! ### The two passes -/

private theorem isWordChar_of_isCapital {c : Char} (h : isCapital c = true) : isWordChar c = false := by
  have hk : isKept c = true := by simp [isKept, h]
  have := forall_isKept (P := fun c => !isCapital c || !isWordChar c) (by decide) hk
  simpa [h] using this

private theorem splitCapitals_cut {c : Char} (h : isCapital c = true) (cs : List Char) :
    splitCapitals true (c :: cs) = '-' :: c :: splitCapitals (isWordChar c) cs := by
  rw [splitCapitals, if_pos (by simpa using h), isWordChar_of_isCapital h]

private theorem splitCapitals_uncut {isOpen : Bool} {c : Char} (h : (isOpen && isCapital c) = false)
    (cs : List Char) : splitCapitals isOpen (c :: cs) = c :: splitCapitals (isWordChar c) cs := by
  rw [splitCapitals, if_neg (by simp [h])]

private theorem splitCapitals_hyphen (isOpen : Bool) (cs : List Char) :
    splitCapitals isOpen ('-' :: cs) = '-' :: splitCapitals false cs :=
  splitCapitals_uncut (Bool.and_false isOpen) cs

/-- The second pass finds every place for a hyphen, whether the first one has found it or not. -/
theorem splitCapitals_splitWords (cs : List Char) :
    (∀ isOpen wasOpen, (wasOpen = true → isOpen = true) →
      splitCapitals isOpen (splitWords wasOpen cs) = splitCapitals isOpen cs) ∧
    ∀ isOpen, splitCapitals isOpen (splitInWord cs) = splitCapitals isOpen cs := by
  induction cs with
  | nil => exact ⟨fun _ _ _ => rfl, fun _ => rfl⟩
  | cons c cs ih =>
    obtain ⟨ihwords, ihword⟩ := ih
    -- whatever the first pass does behind `c`, the second one sees the same
    have hcons : ∀ isOpen ds, splitCapitals (isWordChar c) ds = splitCapitals (isWordChar c) cs →
        splitCapitals isOpen (c :: ds) = splitCapitals isOpen (c :: cs) := by
      intro isOpen ds hds
      cases hcut : isOpen && isCapital c with
      | false => rw [splitCapitals_uncut hcut, splitCapitals_uncut hcut, hds]
      | true =>
        obtain ⟨rfl, hcapital⟩ := Bool.and_eq_true_iff.mp hcut
        rw [splitCapitals_cut hcapital, splitCapitals_cut hcapital, hds]
    constructor
    · intro isOpen wasOpen hopen
      rw [splitWords]
      split
      · rename_i hcut
        rw [Bool.and_eq_true, Bool.and_eq_true] at hcut
        obtain ⟨⟨hwas, hcapital⟩, -⟩ := hcut
        rw [hopen hwas, splitCapitals_cut hcapital, splitCapitals_hyphen, splitCapitals_uncut (Bool.false_and _),
          ihword]
      · exact hcons isOpen _ (ihwords _ _ id)
    · intro isOpen
      rw [splitInWord]
      split
      · exact hcons isOpen _ (ihword _)
      · exact hcons isOpen _ (ihwords _ _ id)

/-- What is dropped in front of the hyphenated characters is what stands in front of the first letter. -/
theorem dropWhile_splitCapitals {cs : List Char} (h : ∀ c ∈ cs, isKept c = true) (isOpen : Bool) :
    (splitCapitals isOpen cs).dropWhile (fun c => isDigit c || c = '-') =
      splitCapitals false (cs.dropWhile fun c => !isLetter c) := by
  induction cs generalizing isOpen with
  | nil => rfl
  | cons c cs ih =>
    rw [List.forall_mem_cons] at h
    by_cases hletter : isLetter c = true
    · have hdrop : ∀ ds, (c :: ds).dropWhile (fun c => isDigit c || c = '-') = c :: ds :=
        fun ds => List.dropWhile_cons_of_neg ((isLetter_iff h.1).mp hletter)
      rw [List.dropWhile_cons_of_neg (by simp [hletter]), splitCapitals_uncut (Bool.false_and _)]
      cases hcut : isOpen && isCapital c with
      | false => rw [splitCapitals_uncut hcut, hdrop]
      | true =>
        obtain ⟨rfl, hcapital⟩ := Bool.and_eq_true_iff.mp hcut
        rw [splitCapitals_cut hcapital, List.dropWhile_cons_of_pos (by decide), hdrop]
    · have hdrop : ∀ ds, (c :: ds).dropWhile (fun c => isDigit c || c = '-') =
          ds.dropWhile (fun c => isDigit c || c = '-') :=
        fun ds => List.dropWhile_cons_of_pos (Decidable.not_not.mp (mt (isLetter_iff h.1).mpr hletter))
      have hcapital : isCapital c = false := by
        simp only [isLetter, Bool.or_eq_true, not_or, Bool.not_eq_true] at hletter
        exact hletter.2
      rw [splitCapitals_uncut (by rw [hcapital, Bool.and_false]), hdrop, ih h.2,
        List.dropWhile_cons_of_pos (by simpa using hletter)]

/-! ### Joining -/

private theorem intercalate_cons_cons_head (c : Char) (word : List Char) (rest : List (List Char)) :
    ['-'].intercalate ((c :: word) :: rest) = c :: ['-'].intercalate (word :: rest) := by
  cases rest with
  | nil => rw [List.intercalate_singleton, List.intercalate_singleton]
  | cons next rest => rw [List.intercalate_cons_cons, List.intercalate_cons_cons, List.cons_append, List.cons_append]

private theorem intercalate_nil_cons {words : List (List Char)} (h : words ≠ []) :
    ['-'].intercalate ([] :: words) = '-' :: ['-'].intercalate words := by
  rw [List.intercalate_cons_of_ne_nil h]
  rfl

/-- The characters with their hyphens in order are the words joined by hyphens, behind the first character of a word
and behind a hyphen. -/
theorem dropHyphens_collapse_splitCapitals (cs : List Char) :
    (∀ c, c ≠ '-' →
      dropHyphens (collapse (c :: splitCapitals (isWordChar c) cs)) = ['-'].intercalate (words (c :: cs))) ∧
    dropHyphens (collapse ('-' :: splitCapitals false cs)) = ['-'].intercalate ([] :: words cs) := by
  induction cs with
  | nil =>
    refine ⟨fun c hc => ?_, rfl⟩
    rw [splitCapitals, dropHyphens_collapse_cons_of_ne hc, words_singleton hc, List.intercalate_singleton]
    rfl
  | cons d cs ih =>
    obtain ⟨ihword, ihhyphen⟩ := ih
    by_cases hd : d = '-'
    · subst hd
      simp only [splitCapitals_hyphen]
      constructor
      · intro c hc
        rw [dropHyphens_collapse_cons_of_ne hc, ihhyphen, words_cons_hyphen hc, intercalate_cons_cons_head]
      · rw [collapse_hyphen_hyphen, ihhyphen, words_hyphen]
    · have ihword := ihword d hd
      constructor
      · intro c hc
        obtain ⟨word, rest, hwords, hwords'⟩ := words_cons_cons hc hd cs
        rw [hwords] at ihword
        rw [dropHyphens_collapse_cons_of_ne hc, hwords']
        cases hcut : isWordChar c && isCapital d with
        | false =>
          rw [splitCapitals_uncut hcut, ihword, if_pos (by simp [isJoined, hcut]), intercalate_cons_cons_head]
        | true =>
          obtain ⟨hopen, hcapital⟩ := Bool.and_eq_true_iff.mp hcut
          rw [hopen, splitCapitals_cut hcapital, dropHyphens_collapse_hyphen_cons hd, ihword,
            if_neg (by simp [isJoined, hcut]), intercalate_cons_cons_head,
            intercalate_nil_cons (List.cons_ne_nil _ _)]
      · rw [splitCapitals_uncut (Bool.false_and _), dropHyphens_collapse_hyphen_cons hd, ihword,
          intercalate_nil_cons (words_ne_nil hd cs)]

/-! ### Small letters -/

theorem toLower_eq_hyphen_iff (c : Char) : c.toLower = '-' ↔ c = '-' := by
  by_cases h : isCapital c = true
  · have hk : isKept c = true := by simp [isKept, h]
    have := forall_isKept (P := fun c => (c.toLower = '-') == (c = '-')) (by decide) hk
    simpa using this
  · have hsame : c.toLower = c := by
      refine dif_neg fun hrange => h ?_
      rw [isCapital, Bool.and_eq_true, decide_eq_true_eq, decide_eq_true_eq]
      exact hrange
    rw [hsame]

private theorem collapse_map_toLower (cs : List Char) :
    collapse (cs.map Char.toLower) = (collapse cs).map Char.toLower := by
  induction cs with
  | nil => rfl
  | cons c cs ih =>
    cases cs with
    | nil => rfl
    | cons d cs =>
      rw [List.map_cons] at ih
      simp only [List.map_cons, collapse, toLower_eq_hyphen_iff, ih]
      split
      · rfl
      · rw [List.map_cons]

private theorem dropHyphens_map_toLower (cs : List Char) :
    dropHyphens (cs.map Char.toLower) = (dropHyphens cs).map Char.toLower := by
  have hhyphen : (fun c => decide (c = '-')) ∘ Char.toLower = fun c => decide (c = '-') :=
    funext fun c => decide_eq_decide.mpr (toLower_eq_hyphen_iff c)
  rw [dropHyphens, dropHyphens, ← List.map_reverse, List.dropWhile_map, hhyphen, List.map_reverse]

/-! ### Conversion -/

theorem convertChars_eq (cs : List Char) :
    convertChars cs =
      (['-'].intercalate (words ((cs.filter isKept).dropWhile fun c => !isLetter c))).map Char.toLower := by
  have hkept : ∀ c ∈ cs.filter isKept, isKept c = true := fun c hc => (List.mem_filter.mp hc).2
  simp only [convertChars]
  rw [(splitCapitals_splitWords (cs.filter isKept)).1 false false id, dropWhile_splitCapitals hkept,
    collapse_map_toLower, dropHyphens_map_toLower]
  cases hstem : (cs.filter isKept).dropWhile fun c => !isLetter c with
  | nil => rfl
  | cons c rest =>
    have hletter : isLetter c = true := by
      have hne : (cs.filter isKept).dropWhile (fun c => !isLetter c) ≠ [] := by
        rw [hstem]
        exact List.cons_ne_nil c rest
      have hhead := List.head_dropWhile_not (fun c => !isLetter c) hne
      simpa [hstem] using hhead
    have hhyphen : c ≠ '-' := by
      rintro rfl
      exact absurd hletter (by decide)
    rw [splitCapitals_uncut (Bool.false_and _), (dropHyphens_collapse_splitCapitals rest).1 c hhyphen]

private theorem filter_intercalate (words : List (List Char)) :
    (['-'].intercalate words).filter (· ≠ '-') = words.flatten.filter (· ≠ '-') := by
  induction words with
  | nil => rfl
  | cons word rest ih =>
    by_cases h : rest = []
    · rw [h, List.intercalate_singleton, List.flatten_singleton]
    · rw [List.intercalate_cons_of_ne_nil h, List.filter_append, List.filter_append, ih, List.flatten_cons,
        List.filter_append]
      simp

/-- The conversion of a name is the words of its stem, joined by single hyphens and put into small letters, so that
the letters and digits of the stem survive in order. -/
theorem convert_eq_words (s : String) :
    convert s = String.ofList ((['-'].intercalate (words (stem s))).map Char.toLower) ∧
    (convert s).toList.filter (· ≠ '-') = ((stem s).filter (· ≠ '-')).map Char.toLower := by
  have hconvert : convert s = String.ofList ((['-'].intercalate (words (stem s))).map Char.toLower) := by
    rw [convert, convertChars_eq]
    rfl
  refine ⟨hconvert, ?_⟩
  have hhyphen : (fun c => decide (c ≠ '-')) ∘ Char.toLower = fun c => decide (c ≠ '-') :=
    funext fun c => decide_eq_decide.mpr (not_congr (toLower_eq_hyphen_iff c))
  rw [hconvert, String.toList_ofList, List.filter_map, hhyphen, filter_intercalate, flatten_words, List.filter_filter]
  simp

example : words (stem "123BengaluruDroneCamera-#2Live") =
    ["Bengaluru".toList, "Drone".toList, "Camera".toList, "2".toList, "Live".toList] := by
  decide

end ConfigMigration.Identifier

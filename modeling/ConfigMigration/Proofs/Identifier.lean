import ConfigMigration.Identifier
import Mathlib.Data.List.TakeWhile

/-!
# Normal forms of names

A name has a normal form if and only if it holds a letter (`normalize_isOk_iff`), the normal form is an identifier
(`isValid_of_normalize`), and an identifier is its own normal form (`normalize_of_isValid`).  The first statement
follows the conversion through its stages: no stage loses a letter or brings in a character that is not kept, and the
last two leave no hyphen at the end or beside another.  No stage changes an identifier either
(`convertChars_of_isValidChars`), so the normal form of a name is its conversion in every case
(`normalize_eq_convert`).
-/

namespace ConfigMigration.Identifier

/-- Whether a character is a letter. -/
def isLetter (c : Char) : Bool := isSmall c || isCapital c

/-- Whether a name holds a letter. -/
def HasLetter (s : String) : Prop := ∃ c ∈ s.toList, isLetter c = true

instance (s : String) : Decidable (HasLetter s) :=
  decidable_of_iff (s.toList.any isLetter = true) List.any_eq_true

/-! ### Characters -/

/-- The characters of an identifier: those of words, and hyphens. -/
def isIdChar (c : Char) : Bool := isWordChar c || c = '-'

private theorem isKept_of_isLetter {c : Char} (h : isLetter c = true) : isKept c = true := by
  simp only [isLetter, isKept, Bool.or_eq_true] at h ⊢
  exact .inl (.inl h)

private theorem isKept_hyphen : isKept '-' = true := by decide

private theorem toNat_lt_of_isKept {c : Char} (h : isKept c = true) : c.toNat < 128 := by
  simp only [isKept, isSmall, isCapital, isDigit, Bool.or_eq_true, Bool.and_eq_true, decide_eq_true_eq,
    Char.le_def, UInt32.le_iff_toNat_le] at h
  change c.val.toNat < 128
  rcases h with ((⟨-, h⟩ | ⟨-, h⟩) | ⟨-, h⟩) | rfl
  · exact Nat.lt_of_le_of_lt h (by decide)
  · exact Nat.lt_of_le_of_lt h (by decide)
  · exact Nat.lt_of_le_of_lt h (by decide)
  · decide

/-- What holds of the first 128 characters that are kept holds of all that are. -/
theorem forall_isKept {P : Char → Bool} (h : ∀ n < 128, isKept (Char.ofNat n) = true → P (Char.ofNat n) = true)
    {c : Char} (hc : isKept c = true) : P c = true := by
  have := h c.toNat (toNat_lt_of_isKept hc)
  rw [Char.ofNat_toNat] at this
  exact this hc

private theorem isIdChar_toLower {c : Char} (h : isKept c = true) : isIdChar c.toLower = true :=
  forall_isKept (P := fun c => isIdChar c.toLower) (by decide) h

private theorem isSmall_toLower {c : Char} (hk : isKept c = true) (h : isLetter c = true) :
    isSmall c.toLower = true := by
  have := forall_isKept (P := fun c => !isLetter c || isSmall c.toLower) (by decide) hk
  simpa [h] using this

/-- A kept character that is neither a digit nor a hyphen is a letter. -/
theorem isLetter_iff {c : Char} (hk : isKept c = true) :
    isLetter c = true ↔ ¬(isDigit c || c = '-') = true := by
  have := forall_isKept (P := fun c => isLetter c == !(isDigit c || c = '-')) (by decide) hk
  simp only [beq_iff_eq] at this
  simp [this]

/-! ### Splitting -/

private theorem mem_splitWords {c : Char} {cs : List Char} :
    (∀ isOpen, c ∈ splitWords isOpen cs → c = '-' ∨ c ∈ cs) ∧ (c ∈ splitInWord cs → c = '-' ∨ c ∈ cs) := by
  induction cs with
  | nil => simp [splitWords, splitInWord]
  | cons d cs ih =>
    obtain ⟨ih₁, ih₂⟩ := ih
    have hskip : ∀ isOpen, c ∈ d :: splitWords isOpen cs → c = '-' ∨ c ∈ d :: cs := by
      intro isOpen h
      rcases List.mem_cons.mp h with rfl | h
      · exact .inr (List.mem_cons_self ..)
      · exact (ih₁ isOpen h).imp_right (List.mem_cons_of_mem _)
    have hword : c ∈ d :: splitInWord cs → c = '-' ∨ c ∈ d :: cs := by
      intro h
      rcases List.mem_cons.mp h with rfl | h
      · exact .inr (List.mem_cons_self ..)
      · exact (ih₂ h).imp_right (List.mem_cons_of_mem _)
    constructor
    · intro isOpen h
      unfold splitWords at h
      split at h
      · rcases List.mem_cons.mp h with rfl | h
        · exact .inl rfl
        · exact hword h
      · exact hskip _ h
    · intro h
      unfold splitInWord at h
      split at h
      · exact hword h
      · exact hskip _ h

private theorem mem_splitWords_of_mem {c : Char} {cs : List Char} (h : c ∈ cs) :
    (∀ isOpen, c ∈ splitWords isOpen cs) ∧ c ∈ splitInWord cs := by
  induction cs with
  | nil => cases h
  | cons d cs ih =>
    have hskip : ∀ isOpen, c ∈ d :: splitWords isOpen cs := by
      intro isOpen
      rcases List.mem_cons.mp h with rfl | h
      · exact List.mem_cons_self ..
      · exact List.mem_cons_of_mem _ ((ih h).1 isOpen)
    have hword : c ∈ d :: splitInWord cs := by
      rcases List.mem_cons.mp h with rfl | h
      · exact List.mem_cons_self ..
      · exact List.mem_cons_of_mem _ (ih h).2
    constructor
    · intro isOpen
      unfold splitWords
      split
      · exact List.mem_cons_of_mem _ hword
      · exact hskip _
    · unfold splitInWord
      split
      · exact hword
      · exact hskip _

private theorem mem_splitCapitals {c : Char} {cs : List Char} {isOpen : Bool} (h : c ∈ splitCapitals isOpen cs) :
    c = '-' ∨ c ∈ cs := by
  induction cs generalizing isOpen with
  | nil => cases h
  | cons d cs ih =>
    have hrest : ∀ isOpen, c ∈ d :: splitCapitals isOpen cs → c = '-' ∨ c ∈ d :: cs := by
      intro isOpen h
      rcases List.mem_cons.mp h with rfl | h
      · exact .inr (List.mem_cons_self ..)
      · exact (ih h).imp_right (List.mem_cons_of_mem _)
    unfold splitCapitals at h
    split at h
    · rcases List.mem_cons.mp h with rfl | h
      · exact .inl rfl
      · exact hrest _ h
    · exact hrest _ h

private theorem mem_splitCapitals_of_mem {c : Char} {cs : List Char} (h : c ∈ cs) (isOpen : Bool) :
    c ∈ splitCapitals isOpen cs := by
  induction cs generalizing isOpen with
  | nil => cases h
  | cons d cs ih =>
    have hrest : ∀ isOpen, c ∈ d :: splitCapitals isOpen cs := by
      intro isOpen
      rcases List.mem_cons.mp h with rfl | h
      · exact List.mem_cons_self ..
      · exact List.mem_cons_of_mem _ (ih h isOpen)
    unfold splitCapitals
    split
    · exact List.mem_cons_of_mem _ (hrest _)
    · exact hrest _

/-- The kept characters of a name with hyphens between its words. -/
private def splitKept (cs : List Char) : List Char := splitCapitals false (splitWords false (cs.filter isKept))

private theorem isKept_of_mem_splitKept {c : Char} {cs : List Char} (h : c ∈ splitKept cs) : isKept c = true := by
  rcases mem_splitCapitals h with rfl | h
  · exact isKept_hyphen
  · rcases (mem_splitWords.1 _ h) with rfl | h
    · exact isKept_hyphen
    · exact (List.mem_filter.mp h).2

private theorem isLetter_mem_splitKept_iff {c : Char} {cs : List Char} (hc : isLetter c = true) :
    c ∈ splitKept cs ↔ c ∈ cs := by
  have hne : c ≠ '-' := by
    rintro rfl
    exact absurd hc (by decide)
  constructor
  · intro h
    have h := (mem_splitCapitals h).resolve_left hne
    have h := (mem_splitWords.1 _ h).resolve_left hne
    exact (List.mem_filter.mp h).1
  · intro h
    have h := List.mem_filter.mpr ⟨h, isKept_of_isLetter hc⟩
    exact mem_splitCapitals_of_mem ((mem_splitWords_of_mem h).1 false) false

/-! ### Hyphens -/

theorem dropHyphens_cons_of_ne {c : Char} (h : c ≠ '-') (cs : List Char) :
    dropHyphens (c :: cs) = c :: dropHyphens cs := by
  unfold dropHyphens
  rw [List.reverse_cons, List.dropWhile_append]
  split
  · rename_i hnil
    rw [List.isEmpty_iff.mp hnil, List.dropWhile_cons_of_neg (by simpa using h)]
    rfl
  · rw [List.reverse_append]
    rfl

theorem dropHyphens_cons_hyphen (cs : List Char) :
    dropHyphens ('-' :: cs) = if dropHyphens cs = [] then [] else '-' :: dropHyphens cs := by
  unfold dropHyphens
  rw [List.reverse_cons, List.dropWhile_append]
  cases h : cs.reverse.dropWhile (· = '-') with
  | nil => simp
  | cons d ds => simp

theorem dropHyphens_collapse_cons_of_ne {c : Char} (h : c ≠ '-') (cs : List Char) :
    dropHyphens (collapse (c :: cs)) = c :: dropHyphens (collapse cs) := by
  cases cs with
  | nil => exact dropHyphens_cons_of_ne h []
  | cons d cs => rw [collapse, if_neg (fun hcd => h hcd.1), dropHyphens_cons_of_ne h]

theorem collapse_hyphen_hyphen (cs : List Char) : collapse ('-' :: '-' :: cs) = collapse ('-' :: cs) := by
  rw [collapse, if_pos ⟨rfl, rfl⟩]

theorem dropHyphens_collapse_hyphen_cons {d : Char} (h : d ≠ '-') (cs : List Char) :
    dropHyphens (collapse ('-' :: d :: cs)) = '-' :: dropHyphens (collapse (d :: cs)) := by
  rw [collapse, if_neg (fun hd => h hd.2), dropHyphens_cons_hyphen, dropHyphens_collapse_cons_of_ne h,
    if_neg (List.cons_ne_nil _ _)]

theorem isTail_cons_of_ne {c : Char} (h : c ≠ '-') (afterHyphen : Bool) (cs : List Char) :
    isTail afterHyphen (c :: cs) = (isWordChar c && isTail false cs) := by
  rw [isTail, if_neg h]

/-- Words joined by runs of hyphens become words joined by single hyphens. -/
private theorem isTail_dropHyphens_collapse {cs : List Char} (h : ∀ c ∈ cs, isIdChar c = true) :
    isTail false (dropHyphens (collapse cs)) = true := by
  induction cs with
  | nil => rfl
  | cons c cs ih =>
    have ih := ih fun d hd => h d (List.mem_cons_of_mem _ hd)
    by_cases hyphen : c = '-'
    · subst hyphen
      cases cs with
      | nil => rfl
      | cons d cs =>
        by_cases hd : d = '-'
        · rwa [hd, collapse_hyphen_hyphen, ← hd]
        · rw [dropHyphens_collapse_cons_of_ne hd, isTail_cons_of_ne hd] at ih
          rw [dropHyphens_collapse_hyphen_cons hd, dropHyphens_collapse_cons_of_ne hd, isTail, if_pos rfl,
            isTail_cons_of_ne hd, ih]
          rfl
    · have hc : isWordChar c = true := by simpa [isIdChar, hyphen] using h c (List.mem_cons_self ..)
      rw [dropHyphens_collapse_cons_of_ne hyphen, isTail_cons_of_ne hyphen, hc, ih]
      rfl

/-! ### Conversion -/

/-- A name with a letter is converted into an identifier. -/
theorem isValidChars_convertChars {cs : List Char} (h : ∃ c ∈ cs, isLetter c = true) :
    isValidChars (convertChars cs) = true := by
  obtain ⟨c, hc, hletter⟩ := h
  have hmem : c ∈ splitKept cs := (isLetter_mem_splitKept_iff hletter).mpr hc
  have hkept : ∀ d ∈ (splitKept cs).dropWhile fun c => isDigit c || c = '-', isKept d = true :=
    fun d hd => isKept_of_mem_splitKept ((List.dropWhile_sublist _).subset hd)
  change isValidChars (dropHyphens (collapse
    (((splitKept cs).dropWhile fun c => isDigit c || c = '-').map Char.toLower))) = true
  cases hdrop : (splitKept cs).dropWhile fun c => isDigit c || c = '-' with
  | nil =>
    have hall := List.dropWhile_eq_nil_iff.mp hdrop c hmem
    exact absurd hall ((isLetter_iff (isKept_of_isLetter hletter)).mp hletter)
  | cons d ds =>
    rw [hdrop] at hkept
    have hd : isKept d = true := hkept d (List.mem_cons_self ..)
    have hne : (splitKept cs).dropWhile (fun c => isDigit c || c = '-') ≠ [] := by
      rw [hdrop]
      exact List.cons_ne_nil _ _
    have hhead := List.head_dropWhile_not (fun c => isDigit c || c = '-') hne
    simp only [hdrop, List.head_cons] at hhead
    have hsmall : isSmall d.toLower = true :=
      isSmall_toLower hd ((isLetter_iff hd).mpr (Bool.not_eq_true _ ▸ hhead))
    have hhyphen : d.toLower ≠ '-' := by
      intro heq
      rw [heq] at hsmall
      exact absurd hsmall (by decide)
    have hall : ∀ e ∈ (d :: ds).map Char.toLower, isIdChar e = true := by
      intro e he
      obtain ⟨e', he', rfl⟩ := List.mem_map.mp he
      exact isIdChar_toLower (hkept e' he')
    have htail := isTail_dropHyphens_collapse hall
    rw [List.map_cons] at htail ⊢
    rw [dropHyphens_collapse_cons_of_ne hhyphen, isTail_cons_of_ne hhyphen, Bool.and_eq_true] at htail
    rw [dropHyphens_collapse_cons_of_ne hhyphen, isValidChars, hsmall, htail.2]
    rfl

/-- Nothing is left of a name without letters. -/
theorem convertChars_eq_nil {cs : List Char} (h : ¬∃ c ∈ cs, isLetter c = true) : convertChars cs = [] := by
  have hdrop : (splitKept cs).dropWhile (fun c => isDigit c || c = '-') = [] := by
    rw [List.dropWhile_eq_nil_iff]
    intro c hc
    cases hb : (isDigit c || c = '-') with
    | true => rfl
    | false =>
      have hletter := (isLetter_iff (isKept_of_mem_splitKept hc)).mpr (by simp [hb])
      exact absurd ⟨c, (isLetter_mem_splitKept_iff hletter).mp hc, hletter⟩ h
  change dropHyphens (collapse
    (((splitKept cs).dropWhile fun c => isDigit c || c = '-').map Char.toLower)) = []
  rw [hdrop]
  rfl

theorem isValid_convert {s : String} (h : HasLetter s) : isValid (convert s) = true := by
  rw [isValid, convert, String.toList_ofList]
  exact isValidChars_convertChars h

theorem convert_eq_empty {s : String} (h : ¬HasLetter s) : convert s = "" := by
  rw [convert, convertChars_eq_nil h]

/-! ### Normal form -/

theorem hasLetter_of_isValid {s : String} (h : isValid s = true) : HasLetter s := by
  unfold isValid at h
  cases hs : s.toList with
  | nil =>
    rw [hs] at h
    cases h
  | cons c cs =>
    rw [hs, isValidChars, Bool.and_eq_true] at h
    refine ⟨c, by simp [hs], ?_⟩
    rw [isLetter, h.1]
    rfl

private theorem normalize_eq (s : String) :
    normalize s = if isValid s then .ok s
      else if isValid (convert s) then .ok (convert s) else .error ⟨s, convert s⟩ := rfl

/-- An identifier is its own normal form. -/
theorem normalize_of_isValid {s : String} (h : isValid s = true) : normalize s = .ok s := by
  rw [normalize, if_pos h]

/-- A normal form is an identifier. -/
theorem isValid_of_normalize {s id : String} (h : normalize s = .ok id) : isValid id = true := by
  rw [normalize_eq] at h
  split at h
  · rename_i hv
    rw [← Except.ok.inj h]
    exact hv
  · split at h
    · rename_i hv
      rw [← Except.ok.inj h]
      exact hv
    · cases h

/-- A name has a normal form if and only if it holds a letter. -/
theorem normalize_isOk_iff {s : String} : (∃ id, normalize s = .ok id) ↔ HasLetter s := by
  constructor
  · rintro ⟨id, h⟩
    rw [normalize_eq] at h
    split at h
    · rename_i hv
      exact hasLetter_of_isValid hv
    · split at h
      · rename_i hv
        refine Decidable.byContradiction fun hs => ?_
        rw [convert_eq_empty hs] at hv
        cases hv
      · cases h
  · intro h
    rw [normalize_eq]
    split
    · exact ⟨s, rfl⟩
    · rw [if_pos (isValid_convert h)]
      exact ⟨_, rfl⟩

/-- Normal forms are their own normal forms. -/
theorem normalize_normalize {s id : String} (h : normalize s = .ok id) : normalize id = .ok id :=
  normalize_of_isValid (isValid_of_normalize h)

/-! ### Identifiers under conversion -/

private theorem isKept_of_isIdChar {c : Char} (h : isIdChar c = true) : isKept c = true := by
  simp only [isIdChar, isWordChar, isKept, Bool.or_eq_true] at h ⊢
  rcases h with (h | h) | h
  · exact .inl (.inl (.inl h))
  · exact .inl (.inr h)
  · exact .inr h

private theorem isCapital_of_isIdChar {c : Char} (h : isIdChar c = true) : isCapital c = false := by
  have := forall_isKept (P := fun c => !isIdChar c || !isCapital c) (by decide) (isKept_of_isIdChar h)
  simpa [h] using this

private theorem toLower_of_isIdChar {c : Char} (h : isIdChar c = true) : c.toLower = c := by
  have := forall_isKept (P := fun c => !isIdChar c || c.toLower = c) (by decide) (isKept_of_isIdChar h)
  simpa [h] using this

private theorem isIdChar_of_mem_tail {afterHyphen : Bool} {cs : List Char} (h : isTail afterHyphen cs = true) :
    ∀ c ∈ cs, isIdChar c = true := by
  induction cs generalizing afterHyphen with
  | nil => exact fun c hc => absurd hc List.not_mem_nil
  | cons c cs ih =>
    rw [List.forall_mem_cons]
    by_cases hyphen : c = '-'
    · rw [isTail, if_pos hyphen, Bool.and_eq_true] at h
      exact ⟨by simp [isIdChar, hyphen], ih h.2⟩
    · rw [isTail_cons_of_ne hyphen, Bool.and_eq_true] at h
      exact ⟨by simp [isIdChar, h.1], ih h.2⟩

private theorem splitWords_eq_self {cs : List Char} (h : ∀ c ∈ cs, isCapital c = false) :
    (∀ isOpen, splitWords isOpen cs = cs) ∧ splitInWord cs = cs := by
  induction cs with
  | nil => exact ⟨fun _ => rfl, rfl⟩
  | cons c cs ih =>
    rw [List.forall_mem_cons] at h
    obtain ⟨hwords, hword⟩ := ih h.2
    constructor
    · intro isOpen
      rw [splitWords, if_neg (by simp [h.1]), hwords]
    · rw [splitInWord, hwords, hword]
      split <;> rfl

private theorem splitCapitals_eq_self {cs : List Char} (h : ∀ c ∈ cs, isCapital c = false) (isOpen : Bool) :
    splitCapitals isOpen cs = cs := by
  induction cs generalizing isOpen with
  | nil => rfl
  | cons c cs ih =>
    rw [List.forall_mem_cons] at h
    rw [splitCapitals, if_neg (by simp [h.1]), ih h.2]

private theorem collapse_of_isTail {afterHyphen : Bool} {cs : List Char} (h : isTail afterHyphen cs = true) :
    collapse cs = cs := by
  induction cs generalizing afterHyphen with
  | nil => rfl
  | cons c cs ih =>
    have hrest : ∃ afterHyphen, isTail afterHyphen cs = true ∧ (c = '-' → afterHyphen = true) := by
      by_cases hyphen : c = '-'
      · rw [isTail, if_pos hyphen, Bool.and_eq_true] at h
        exact ⟨true, h.2, fun _ => rfl⟩
      · rw [isTail_cons_of_ne hyphen, Bool.and_eq_true] at h
        exact ⟨false, h.2, fun heq => absurd heq hyphen⟩
    obtain ⟨afterC, hcs, hafter⟩ := hrest
    cases cs with
    | nil => rfl
    | cons d cs =>
      -- behind a hyphen no second one is allowed, so the two first characters stay
      have hcd : ¬(c = '-' ∧ d = '-') := by
        rintro ⟨hc, hd⟩
        rw [isTail, if_pos hd, hafter hc] at hcs
        cases hcs
      rw [collapse, if_neg hcd, ih hcs]

private theorem dropHyphens_of_isTail {afterHyphen : Bool} {cs : List Char} (h : isTail afterHyphen cs = true) :
    dropHyphens cs = cs := by
  induction cs generalizing afterHyphen with
  | nil => rfl
  | cons c cs ih =>
    by_cases hyphen : c = '-'
    · subst hyphen
      rw [isTail, if_pos rfl, Bool.and_eq_true] at h
      have hne : cs ≠ [] := by
        rintro rfl
        cases h.2
      rw [dropHyphens_cons_hyphen, ih h.2, if_neg hne]
    · rw [isTail_cons_of_ne hyphen, Bool.and_eq_true] at h
      rw [dropHyphens_cons_of_ne hyphen, ih h.2]

/-- No stage of the conversion changes an identifier. -/
theorem convertChars_of_isValidChars {cs : List Char} (h : isValidChars cs = true) : convertChars cs = cs := by
  cases cs with
  | nil => cases h
  | cons c cs =>
    rw [isValidChars, Bool.and_eq_true] at h
    have hhyphen : c ≠ '-' := by
      rintro rfl
      exact absurd h.1 (by decide)
    have hword : isWordChar c = true := by simp [isWordChar, h.1]
    have htail : isTail false (c :: cs) = true := by
      rw [isTail_cons_of_ne hhyphen, hword, h.2]
      rfl
    have hid := isIdChar_of_mem_tail htail
    have hcapital : ∀ d ∈ c :: cs, isCapital d = false := fun d hd => isCapital_of_isIdChar (hid d hd)
    have hkept : (c :: cs).filter isKept = c :: cs :=
      List.filter_eq_self.mpr fun d hd => isKept_of_isIdChar (hid d hd)
    have hfirst : ¬(isDigit c || c = '-') = true := by
      rw [← isLetter_iff (isKept_of_isIdChar (hid c (List.mem_cons_self ..))), isLetter, h.1]
      rfl
    have hdrop : (c :: cs).dropWhile (fun c => isDigit c || c = '-') = c :: cs :=
      List.dropWhile_cons_of_neg hfirst
    have hlower : (c :: cs).map Char.toLower = c :: cs := by
      rw [List.map_congr_left fun d hd => toLower_of_isIdChar (hid d hd), List.map_id']
    simp only [convertChars]
    rw [hkept, (splitWords_eq_self hcapital).1, splitCapitals_eq_self hcapital, hdrop, hlower,
      collapse_of_isTail htail, dropHyphens_of_isTail htail]

theorem convert_of_isValid {s : String} (h : isValid s = true) : convert s = s := by
  rw [convert, convertChars_of_isValidChars h, String.ofList_toList]

/-- The normal form of a name with a letter is its conversion, which is an identifier and its own normal form; the
conversion leaves identifiers as they are.  A name without a letter has no normal form, and nothing is left of it. -/
theorem normalize_eq_convert (s : String) :
    (HasLetter s → normalize s = .ok (convert s) ∧ isValid (convert s) = true ∧
      normalize (convert s) = .ok (convert s)) ∧
    (isValid s = true → convert s = s) ∧
    (¬HasLetter s → normalize s = .error ⟨s, ""⟩) := by
  refine ⟨fun h => ?_, convert_of_isValid, fun h => ?_⟩
  · have hvalid := isValid_convert h
    refine ⟨?_, hvalid, normalize_of_isValid hvalid⟩
    by_cases hs : isValid s = true
    · rw [normalize_of_isValid hs, convert_of_isValid hs]
    · rw [normalize_eq, if_neg hs, if_pos hvalid]
  · have hs : ¬isValid s = true := fun hs => h (hasLetter_of_isValid hs)
    have hempty : ¬isValid (convert s) = true := by
      rw [convert_eq_empty h]
      decide
    rw [normalize_eq, if_neg hs, if_neg hempty, convert_eq_empty h]

end ConfigMigration.Identifier

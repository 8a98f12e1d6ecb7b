import ConfigMigration.Proofs.Identifier
import Mathlib.Computability.Language

/-!
# The grammar of identifiers

The identifiers are a regular language: a small letter with any number of turns behind it, where a turn is a character
of a word, with a further character in front of it or without one.  A run of characters can be cut into turns in many
ways, but whether it can be cut at all is seen from left to right with one character in hand (`mem_turns_iff`).  Read
character by character, the grammar says that an identifier begins with a small letter, holds nothing but small
letters, digits and hyphens, does not end with a hyphen and has no two hyphens side by side (`mem_pattern_iff`).
-/

namespace ConfigMigration.Identifier

open scoped Computability

/-- The texts of one character of a kind. -/
def oneOf (p : Char → Bool) : Language Char := {text | ∃ c, p c = true ∧ text = [c]}

/-- The turns of an identifier, `[a-z0-9-]?[a-z0-9]`. -/
def turn : Language Char := (1 + oneOf isIdChar) * oneOf isWordChar

/-- The texts that the pattern `^[a-z]([a-z0-9-]?[a-z0-9])*$` describes. -/
def pattern : Language Char := oneOf isSmall * turn∗

/-- Whether a text consists of words of small letters and digits that are joined by single hyphens,
and begins with a letter. -/
structure IsHyphenated (s : String) : Prop where
  nonempty : s ≠ ""
  first : ∀ c ∈ s.toList.head?, isSmall c = true
  chars : ∀ c ∈ s.toList, isSmall c = true ∨ isDigit c = true ∨ c = '-'
  last : s.toList.getLast? ≠ some '-'
  apart : s.toList.IsChain fun a b => ¬(a = '-' ∧ b = '-')

/-! ### Turns -/

variable {cs text : List Char}

theorem mem_oneOf_iff {p : Char → Bool} : text ∈ oneOf p ↔ ∃ c, p c = true ∧ text = [c] := Iff.rfl

theorem mem_turn_iff :
    text ∈ turn ↔ ∃ d, isWordChar d = true ∧ (text = [d] ∨ ∃ c, isIdChar c = true ∧ text = [c, d]) := by
  simp only [turn, Language.mem_mul, Language.mem_add, Language.mem_one, mem_oneOf_iff]
  constructor
  · rintro ⟨front, rfl | ⟨c, hc, rfl⟩, -, ⟨d, hd, rfl⟩, rfl⟩
    · exact ⟨d, hd, .inl rfl⟩
    · exact ⟨d, hd, .inr ⟨c, hc, rfl⟩⟩
  · rintro ⟨d, hd, rfl | ⟨c, hc, rfl⟩⟩
    · exact ⟨[], .inl rfl, [d], ⟨d, hd, rfl⟩, rfl⟩
    · exact ⟨[c], .inr ⟨c, hc, rfl⟩, [d], ⟨d, hd, rfl⟩, rfl⟩

theorem append_mem_turns (htext : text ∈ turn) (hcs : cs ∈ turn∗) : text ++ cs ∈ turn∗ := by
  obtain ⟨turns, rfl, hturns⟩ := Language.mem_kstar.mp hcs
  exact Language.mem_kstar.mpr ⟨text :: turns, rfl, List.forall_mem_cons.mpr ⟨htext, hturns⟩⟩

theorem ne_hyphen_of_isWordChar {c : Char} (h : isWordChar c = true) : c ≠ '-' := by
  rintro rfl
  exact absurd h (by decide)

/-- A turn in front of a well-formed rest leaves it well formed. -/
theorem isTail_turn_append (htext : text ∈ turn) (hcs : isTail false cs = true) :
    isTail false (text ++ cs) = true := by
  obtain ⟨d, hd, htext⟩ := mem_turn_iff.mp htext
  have hword : ∀ afterHyphen, isTail afterHyphen (d :: cs) = true := by
    intro afterHyphen
    rw [isTail_cons_of_ne (ne_hyphen_of_isWordChar hd), hd, hcs]
    rfl
  rcases htext with rfl | ⟨c, hc, rfl⟩
  · exact hword false
  · change isTail false (c :: d :: cs) = true
    by_cases hyphen : c = '-'
    · rw [isTail, if_pos hyphen, hword]
      rfl
    · have hc : isWordChar c = true := by simpa [isIdChar, hyphen] using hc
      rw [isTail_cons_of_ne hyphen, hc, hword]
      rfl

/-- The hyphen of a rest belongs to one turn with the character behind it, and every other character may be a turn of
its own. -/
theorem mem_turns_of_isTail :
    (isTail false cs = true → cs ∈ turn∗) ∧ (isTail true cs = true → '-' :: cs ∈ turn∗) := by
  induction cs with
  | nil => exact ⟨fun _ => Language.nil_mem_kstar turn, fun h => absurd h Bool.false_ne_true⟩
  | cons d cs ih =>
    obtain ⟨ihword, ihhyphen⟩ := ih
    by_cases hyphen : d = '-'
    · rw [isTail, isTail, if_pos hyphen, if_pos hyphen, hyphen]
      exact ⟨ihhyphen, fun h => absurd h Bool.false_ne_true⟩
    · rw [isTail_cons_of_ne hyphen, isTail_cons_of_ne hyphen, Bool.and_eq_true]
      constructor
      · rintro ⟨hd, hcs⟩
        exact append_mem_turns (mem_turn_iff.mpr ⟨d, hd, .inl rfl⟩) (ihword hcs)
      · rintro ⟨hd, hcs⟩
        exact append_mem_turns (mem_turn_iff.mpr ⟨d, hd, .inr ⟨'-', rfl, rfl⟩⟩) (ihword hcs)

theorem mem_turns_iff : cs ∈ turn∗ ↔ isTail false cs = true := by
  refine ⟨fun h => ?_, mem_turns_of_isTail.1⟩
  obtain ⟨turns, rfl, hturns⟩ := Language.mem_kstar.mp h
  clear h
  induction turns with
  | nil => rfl
  | cons text turns ih =>
    rw [List.forall_mem_cons] at hturns
    exact isTail_turn_append hturns.1 (ih hturns.2)

theorem mem_pattern_iff_isValidChars : cs ∈ pattern ↔ isValidChars cs = true := by
  simp only [pattern, Language.mem_mul, mem_oneOf_iff, mem_turns_iff]
  constructor
  · rintro ⟨-, ⟨c, hc, rfl⟩, rest, hrest, rfl⟩
    change (isSmall c && isTail false rest) = true
    rw [hc, hrest]
    rfl
  · intro h
    cases cs with
    | nil => cases h
    | cons c cs =>
      rw [isValidChars, Bool.and_eq_true] at h
      exact ⟨[c], ⟨c, h.1, rfl⟩, cs, h.2, rfl⟩

/-! ### Characters -/

/-- A rest behind a character of a word, told by its characters and their neighbours. -/
theorem isTail_iff :
    isTail false cs = true ↔
      (∀ c ∈ cs, isIdChar c = true) ∧ cs.getLast? ≠ some '-' ∧ cs.IsChain fun a b => ¬(a = '-' ∧ b = '-') := by
  induction cs with
  | nil => simp [isTail]
  | cons c cs ih =>
    cases cs with
    | nil =>
      by_cases hyphen : c = '-'
      · simp [isTail, hyphen]
      · simp [isTail, isIdChar, hyphen]
    | cons d cs =>
      rw [List.forall_mem_cons, List.getLast?_cons_cons, List.isChain_cons_cons]
      by_cases hyphen : c = '-'
      · -- behind a hyphen the rest must be well formed and begin with something else
        have hbehind : isTail false (c :: d :: cs) = (!decide (d = '-') && isTail false (d :: cs)) := by
          rw [isTail, if_pos hyphen]
          by_cases hd : d = '-'
          · simp [isTail, hd]
          · simp [isTail, hd]
        have hd : (!decide (d = '-')) = true ↔ ¬(c = '-' ∧ d = '-') := by simp [hyphen]
        have hc : isIdChar c = true := by simp [isIdChar, hyphen]
        rw [hbehind, Bool.and_eq_true, ih, hd]
        constructor
        · rintro ⟨hapart, hchars, hlast, hchain⟩
          exact ⟨⟨hc, hchars⟩, hlast, hapart, hchain⟩
        · rintro ⟨⟨-, hchars⟩, hlast, hapart, hchain⟩
          exact ⟨hapart, hchars, hlast, hchain⟩
      · rw [isTail_cons_of_ne hyphen, Bool.and_eq_true, ih]
        simp [isIdChar, hyphen, and_assoc]

/-- The first letter of an identifier is a character of a word too. -/
theorem isValidChars_iff :
    isValidChars cs = true ↔ (∃ c ∈ cs.head?, isSmall c = true) ∧ isTail false cs = true := by
  cases cs with
  | nil => simp [isValidChars]
  | cons c cs =>
    rw [isValidChars, Bool.and_eq_true, List.head?_cons]
    constructor
    · rintro ⟨hc, hcs⟩
      have hword : isWordChar c = true := by simp [isWordChar, hc]
      refine ⟨⟨c, rfl, hc⟩, ?_⟩
      rw [isTail_cons_of_ne (ne_hyphen_of_isWordChar hword), hword, hcs]
      rfl
    · rintro ⟨⟨d, hd, hc⟩, hcs⟩
      obtain rfl := Option.some.inj hd
      have hword : isWordChar c = true := by simp [isWordChar, hc]
      rw [isTail_cons_of_ne (ne_hyphen_of_isWordChar hword), Bool.and_eq_true] at hcs
      exact ⟨hc, hcs.2⟩

theorem isIdChar_iff {c : Char} : isIdChar c = true ↔ isSmall c = true ∨ isDigit c = true ∨ c = '-' := by
  simp [isIdChar, isWordChar, or_assoc]

theorem isValid_iff_isHyphenated (s : String) : isValid s = true ↔ IsHyphenated s := by
  rw [isValid, isValidChars_iff, isTail_iff]
  simp only [isIdChar_iff]
  constructor
  · rintro ⟨⟨c, hhead, hc⟩, hchars, hlast, happart⟩
    refine ⟨?_, ?_, hchars, hlast, happart⟩
    · rintro rfl
      cases hhead
    · intro d hd
      rwa [← Option.mem_unique hhead hd]
  · intro h
    cases hs : s.toList with
    | nil => exact absurd (String.toList_eq_nil_iff.mp hs) h.nonempty
    | cons c cs =>
      have hc : isSmall c = true := h.first c (by rw [hs]; rfl)
      exact ⟨⟨c, rfl, hc⟩, hs ▸ h.chars, hs ▸ h.last, hs ▸ h.apart⟩

/-- The pattern describes the identifiers and nothing else, and these are the texts that begin with a small letter,
hold nothing but small letters, digits and hyphens, do not end with a hyphen and have no two hyphens side by side. -/
theorem mem_pattern_iff (s : String) :
    (isValid s = true ↔ s.toList ∈ pattern) ∧ (s.toList ∈ pattern ↔ IsHyphenated s) := by
  have hvalid : isValid s = true ↔ s.toList ∈ pattern := mem_pattern_iff_isValidChars.symm
  exact ⟨hvalid, hvalid.symm.trans (isValid_iff_isHyphenated s)⟩

end ConfigMigration.Identifier

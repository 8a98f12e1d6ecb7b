import ConfigMigration.Event

/-!
# Identifiers

An identifier is made of words of small letters and digits, joined by single hyphens, and starts with a letter.  A
free name that holds a letter can be made into an identifier: the characters that cannot stand in one are left out,
a hyphen goes before each capital that follows a small letter or a digit, and what is left is put into small
letters.
-/

namespace ConfigMigration.Identifier

/-- The small letters. -/
def isSmall (c : Char) : Bool := 'a' ≤ c && c ≤ 'z'

/-- The capital letters. -/
def isCapital (c : Char) : Bool := 'A' ≤ c && c ≤ 'Z'

/-- The digits. -/
def isDigit (c : Char) : Bool := '0' ≤ c && c ≤ '9'

/-- The characters of words. -/
def isWordChar (c : Char) : Bool := isSmall c || isDigit c

/-! ### Valid identifiers -/

/-- Whether the rest of an identifier is well formed, behind a hyphen or behind a character of a word. -/
def isTail (afterHyphen : Bool) : List Char → Bool
  | [] => !afterHyphen
  | c :: cs => if c = '-' then !afterHyphen && isTail true cs else isWordChar c && isTail false cs

/-- Whether the characters form an identifier. -/
def isValidChars : List Char → Bool
  | [] => false
  | c :: cs => isSmall c && isTail false cs

/-- Whether a text is an identifier. -/
def isValid (s : String) : Bool := isValidChars s.toList

/-! ### Conversion -/

/-- Whether a character survives the conversion. -/
def isKept (c : Char) : Bool := isSmall c || isCapital c || isDigit c || c = '-'

mutual

/-- Puts a hyphen before each capitalised word that follows a character of a word.  A capitalised word is a capital
and the small letters behind it; `isOpen` tells whether the character before belongs to no such word. -/
def splitWords (isOpen : Bool) : List Char → List Char
  | [] => []
  | c :: cs =>
    if isOpen && isCapital c && (cs.head?.map isSmall).getD false then '-' :: c :: splitInWord cs
    else c :: splitWords (isWordChar c) cs
termination_by structural cs => cs

/-- Goes on behind the capital of a word that has got its hyphen: the small letters are part of the word. -/
def splitInWord : List Char → List Char
  | [] => []
  | c :: cs => if isSmall c then c :: splitInWord cs else c :: splitWords (isWordChar c) cs
termination_by structural cs => cs

end

/-- Puts a hyphen before each capital that follows a character of a word. -/
def splitCapitals (isOpen : Bool) : List Char → List Char
  | [] => []
  | c :: cs =>
    if isOpen && isCapital c then '-' :: c :: splitCapitals false cs
    else c :: splitCapitals (isWordChar c) cs

/-- Makes each run of hyphens one hyphen. -/
def collapse : List Char → List Char
  | [] => []
  | [c] => [c]
  | c :: d :: cs => if c = '-' ∧ d = '-' then collapse (d :: cs) else c :: collapse (d :: cs)

/-- The characters without the hyphens at their end. -/
def dropHyphens (cs : List Char) : List Char :=
  (cs.reverse.dropWhile (· = '-')).reverse

/-- Converts the characters of a free name. -/
def convertChars (cs : List Char) : List Char :=
  let split := splitCapitals false (splitWords false (cs.filter isKept))
  let lowered := (split.dropWhile fun c => isDigit c || c = '-').map Char.toLower
  dropHyphens (collapse lowered)

/-- Converts a free name.  The result is an identifier if the name holds a letter, and empty otherwise. -/
def convert (s : String) : String := String.ofList (convertChars s.toList)

/-! ### Normal form -/

/-- A name that holds no letter, and what the conversion made of it. -/
structure Unconvertible where
  /-- The name. -/
  name : String
  /-- The result of the conversion. -/
  converted : String
deriving DecidableEq, Repr

/-- The message of the error. -/
def Unconvertible.message (e : Unconvertible) : String :=
  "cannot derive an identifier from '" ++ e.name ++ "' (got '" ++ e.converted ++ "')"

/-- The identifier of a name: the name itself if it is one, and its conversion otherwise. -/
def normalize (s : String) : Except Unconvertible String :=
  if isValid s then .ok s
  else
    let converted := convert s
    if isValid converted then .ok converted else .error ⟨s, converted⟩

/-- The identifier of a name, with a report where the name had to be converted. -/
def normalizeLogged (s : String) : Logged (Except Unconvertible String) :=
  match normalize s with
  | .error e => ⟨[], .error e⟩
  | .ok id =>
    if isValid s then ⟨[], .ok id⟩
    else ⟨[{ level := .debug, component := .identifier, message := "identifier rewritten",
             fields := [("original", .text s), ("converted", .display id)] }], .ok id⟩

@[simp] theorem value_normalizeLogged (s : String) : (normalizeLogged s).value = normalize s := by
  unfold normalizeLogged
  split
  · rename_i h; exact h.symm
  · rename_i h; split <;> exact h.symm

example : convert "BengaluruDroneCamera-2StatusLive" = "bengaluru-drone-camera-2-status-live" := by decide

example : convert "aBCd" = "a-bcd" := by decide

end ConfigMigration.Identifier

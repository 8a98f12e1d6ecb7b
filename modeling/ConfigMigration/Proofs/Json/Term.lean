import ConfigMigration.Json.Printer
import ConfigMigration.Proofs.Json.Numeral

/-!
# Reading back written values

The text of a value is read as the term of the value, and nothing follows it.  The main statement is
`ofChars_write`; it holds for every value, with members in any order and numbers of any size.
-/

namespace ConfigMigration.Json

mutual

/-- The term that the text of a value is read as. -/
def toTerm : Json → Term
  | null => .null
  | bool b => .bool b
  | number n => .number n.numeral
  | string s => .string (.text s)
  | array items => .array (itemTerms items) none
  | object members => .object (memberTerms members) none
termination_by structural value => value

/-- The terms of items. -/
def itemTerms : List Json → List Term
  | [] => []
  | item :: items => item.toTerm :: itemTerms items
termination_by structural items => items

/-- The terms of members, with their names. -/
def memberTerms : List (String × Json) → List (Spelling × Term)
  | [] => []
  | (name, value) :: members => (.text name, value.toTerm) :: memberTerms members
termination_by structural members => members

end

theorem itemTerms_eq_map (items : List Json) : itemTerms items = items.map toTerm := by
  induction items with
  | nil => rfl
  | cons item items ih => rw [itemTerms, ih, List.map_cons]

/-! ### Tokens -/

/-- The texts that may stand behind a number: the rest of an array or object, or nothing. -/
def IsRest : List Char → Prop
  | [] => True
  | c :: _ => c = ',' ∨ c = ']' ∨ c = '\x7d'

namespace Token

@[simp] theorem run_comma (rest : List Char) : run .between (',' :: rest) = .comma :: run .between rest := rfl

@[simp] theorem run_colon (rest : List Char) : run .between (':' :: rest) = .colon :: run .between rest := rfl

@[simp] theorem run_openArray (rest : List Char) : run .between ('[' :: rest) = .openArray :: run .between rest := rfl

@[simp] theorem run_closeArray (rest : List Char) :
    run .between (']' :: rest) = .closeArray :: run .between rest := rfl

@[simp] theorem run_openObject (rest : List Char) :
    run .between ('\x7b' :: rest) = .openObject :: run .between rest := rfl

@[simp] theorem run_closeObject (rest : List Char) :
    run .between ('\x7d' :: rest) = .closeObject :: run .between rest := rfl

private theorem run_numeral_append {stage last : Numeral.Stage} {numeral next : Numeral} {cs : List Char}
    (h : numeral.read? stage cs = some (last, next)) (rest : List Char) :
    run (.numeral stage numeral) (cs ++ rest) = run (.numeral last next) rest := by
  induction cs generalizing stage numeral with
  | nil =>
    cases h
    rfl
  | cons c cs ih =>
    rw [Numeral.read?] at h
    obtain ⟨pushed, hp, h⟩ := Option.bind_eq_some_iff.mp h
    rw [List.cons_append, run, step, hp]
    exact ih h

private theorem run_numeral_rest {stage : Numeral.Stage} (hs : stage.isComplete = true) (numeral : Numeral)
    {rest : List Char} (hrest : IsRest rest) :
    run (.numeral stage numeral) rest = .number numeral :: run .between rest := by
  cases rest with
  | nil => simp [run, finish, hs]
  | cons c rest =>
    rcases hrest with rfl | rfl | rfl <;> cases stage <;> first | rfl | exact absurd hs (by decide)

private theorem start_of_isDigit {c : Char} (h : c.isDigit = true) {stage : Numeral.Stage} {numeral : Numeral}
    (hp : Numeral.push? .sign {} c = some (stage, numeral)) : start c = ([], .numeral stage numeral) := by
  have hne : ∀ d : Char, d.isDigit = false → c ≠ d := by
    rintro d hd rfl
    exact Bool.false_ne_true (hd.symm.trans h)
  simp [start, isSpace, hne ' ' rfl, hne '\n' rfl, hne '\t' rfl, hne '\r' rfl, hne '[' rfl, hne ']' rfl,
    hne '\x7b' rfl, hne '\x7d' rfl, hne ',' rfl, hne ':' rfl, hne '"' rfl, hne 'n' rfl, hne 't' rfl, hne 'f' rfl,
    hne '-' rfl, hp]

theorem run_number (n : Number) {rest : List Char} (hrest : IsRest rest) :
    run .between (n.text ++ rest) = .number n.numeral :: run .between rest := by
  obtain ⟨stage, htext, hs⟩ := n.ofText?_text
  rw [← run_numeral_rest hs n.numeral hrest]
  cases ht : n.text with
  | nil =>
    rw [ht] at htext
    cases htext
  | cons c cs =>
    rw [ht, Numeral.ofText?] at htext
    split at htext
    · rename_i hc
      subst hc
      exact run_numeral_append htext rest
    · rw [Numeral.read?] at htext
      obtain ⟨⟨first, numeral⟩, hp, htext⟩ := Option.bind_eq_some_iff.mp htext
      cases hd : c.isDigit with
      | false => simp [Numeral.push?, digit?, hd] at hp
      | true =>
        rw [List.cons_append, run, step, start_of_isDigit hd hp]
        exact run_numeral_append htext rest

private theorem hexValue?_hexDigit : ∀ n, n < 16 → hexValue? (hexDigit n) = some n := by decide

private theorem utf8Size_hexDigit : ∀ n, n < 16 → (hexDigit n).utf8Size = 1 := by decide

private theorem step_string_plain {c : Char} (h1 : c ≠ '\\') (h2 : c ≠ '"') (h3 : ¬c.toNat < 0x20)
    (reversed : List Char) :
    step (.string { reversed }) c = ([], .string { reversed := c :: reversed }) := by
  simp [step, stepString, OpenString.release, OpenString.push, h1, h2, h3]

private theorem stepUnit_hexDigit (s : OpenString) (count value : Nat) {n : Nat} (h : n < 16) :
    stepUnit s count (some value) (hexDigit n) =
      ([], if count + 1 < 4 then .unit s (count + 1) (some (value * 16 + n))
        else .string (s.pushUnit (value * 16 + n))) := by
  simp only [stepUnit, hexValue?_hexDigit n h, utf8Size_hexDigit n h, Option.bind_eq_bind, Option.bind_some]
  split <;> rfl

private theorem run_escape (c : Char) (reversed rest : List Char) :
    run (.string { reversed }) (escape c ++ rest) = run (.string { reversed := c :: reversed }) rest := by
  unfold escape
  split
  · subst_vars; rfl
  split
  · subst_vars; rfl
  split
  · subst_vars; rfl
  split
  · subst_vars; rfl
  split
  · subst_vars; rfl
  split
  · rename_i h
    rw [show c = '\x08' from Char.toNat_inj.mp h]
    rfl
  split
  · rename_i h
    rw [show c = '\x0c' from Char.toNat_inj.mp h]
    rfl
  split
  · rename_i h
    have hhex : c.toNat / 16 * 16 + c.toNat % 16 = c.toNat := by omega
    have hpush : OpenString.pushUnit { reversed } c.toNat = { reversed := c :: reversed } := by
      have hhigh : isHighSurrogate c.toNat = false := by simp [isHighSurrogate]; omega
      have hlow : isLowSurrogate c.toNat = false := by simp [isLowSurrogate]; omega
      simp [OpenString.pushUnit, OpenString.push, hhigh, hlow, Char.ofNat_toNat]
    change run (.unit { reversed } 2 (some 0))
      (hexDigit (c.toNat / 16) :: hexDigit (c.toNat % 16) :: rest) = _
    rw [run, step, stepUnit_hexDigit _ _ _ (by omega), if_pos (by decide), run, step,
      stepUnit_hexDigit _ _ _ (Nat.mod_lt _ (by decide)), if_neg (by decide), Nat.zero_mul, Nat.zero_add, hhex, hpush]
    rfl
  · rename_i h1 h2 _ _ _ _ _ h3
    rw [List.singleton_append, run, step_string_plain h2 h1 h3]
    rfl

private theorem run_escapes (cs reversed rest : List Char) :
    run (.string { reversed }) (cs.flatMap escape ++ '"' :: rest) =
      .string (.text (String.ofList (reversed.reverse ++ cs))) :: run .between rest := by
  induction cs generalizing reversed with
  | nil => simp [run, step, stepString, OpenString.release, OpenString.toToken, done]
  | cons c cs ih =>
    rw [List.flatMap_cons, List.append_assoc, run_escape, ih]
    simp

/-- A written string is read as the string. -/
theorem run_writeString (s : String) (rest : List Char) :
    run .between (writeString s rest) = .string (.text s) :: run .between rest := by
  rw [writeString, run, show step .between '"' = ([], .string {}) from rfl, List.nil_append, run_escapes]
  simp

end Token

/-! ### Values -/

namespace Term

private theorem run_firstItem {token : Token} (h : token ≠ .closeArray) (frames : List Frame) (tokens : List Token) :
    run .firstItem frames (token :: tokens) = run .value (.array [] :: frames) (token :: tokens) := by
  cases token <;> first | rfl | exact absurd rfl h

/-- The text of a value begins with a token, and not with a closing bracket. -/
private theorem run_write_eq_cons (value : Json) {rest : List Char} (hrest : IsRest rest) :
    ∃ token tokens, Token.run .between (value.write rest) = token :: tokens ∧ token ≠ .closeArray := by
  cases value with
  | null => exact ⟨.null, _, rfl, by simp⟩
  | bool b =>
    cases b with
    | true => exact ⟨.bool true, _, rfl, by simp⟩
    | false => exact ⟨.bool false, _, rfl, by simp⟩
  | number n => exact ⟨_, _, Token.run_number n hrest, by simp⟩
  | string s => exact ⟨_, _, Token.run_writeString s rest, by simp⟩
  | array items => cases items <;> exact ⟨.openArray, _, by rw [write, Token.run_openArray], by simp⟩
  | object members => cases members <;> exact ⟨.openObject, _, by rw [write, Token.run_openObject], by simp⟩

private theorem isRest_writeItems (items : List Json) (rest : List Char) :
    IsRest (writeItems items (']' :: rest)) := by
  cases items with
  | nil => exact .inr (.inl rfl)
  | cons item items => exact .inl rfl

private theorem isRest_writeMembers (members : List (String × Json)) (rest : List Char) :
    IsRest (writeMembers members ('\x7d' :: rest)) := by
  cases members with
  | nil => exact .inr (.inr rfl)
  | cons member members => exact .inl rfl

mutual

/-- The text of a value is read as its term. -/
private theorem run_write : ∀ (value : Json) (rest : List Char) (frames : List Frame), IsRest rest →
    run .value frames (Token.run .between (value.write rest)) =
      run (complete value.toTerm frames).1 (complete value.toTerm frames).2 (Token.run .between rest)
  | .null, _, _, _ => rfl
  | .bool true, _, _, _ => rfl
  | .bool false, _, _, _ => rfl
  | .number n, rest, frames, hrest => by
    rw [write, Token.run_number n hrest, toTerm]
    rfl
  | .string s, rest, frames, _ => by
    rw [write, Token.run_writeString, toTerm]
    rfl
  | .array [], _, _, _ => rfl
  | .array (item :: items), rest, frames, _ => by
    have hitem := run_write item (writeItems items (']' :: rest)) (.array [] :: frames) (isRest_writeItems items rest)
    have hitems := run_writeItems items rest [item.toTerm] frames
    obtain ⟨token, tokens, htokens, htoken⟩ := run_write_eq_cons item (isRest_writeItems items rest)
    rw [write, Token.run_openArray, toTerm, itemTerms]
    change run .firstItem frames (Token.run .between (item.write (writeItems items (']' :: rest)))) = _
    rw [htokens, run_firstItem htoken, ← htokens, hitem]
    exact hitems
  | .object [], _, _, _ => rfl
  | .object ((name, value) :: members), rest, frames, _ => by
    have hvalue := run_write value (writeMembers members ('\x7d' :: rest)) (.object [] (.text name) :: frames)
      (isRest_writeMembers members rest)
    have hmembers := run_writeMembers members rest [(.text name, value.toTerm)] frames
    rw [write, Token.run_openObject, Token.run_writeString, Token.run_colon, toTerm, memberTerms]
    exact hvalue.trans hmembers

private theorem run_writeItems :
    ∀ (items : List Json) (rest : List Char) (reversed : List Term) (frames : List Frame),
    run (.afterItem reversed) frames (Token.run .between (writeItems items (']' :: rest))) =
      run (complete (.array (reversed.reverse ++ itemTerms items) none) frames).1
        (complete (.array (reversed.reverse ++ itemTerms items) none) frames).2 (Token.run .between rest)
  | [], rest, reversed, frames => by
    rw [writeItems, Token.run_closeArray, itemTerms, List.append_nil]
    rfl
  | item :: items, rest, reversed, frames => by
    have hitem := run_write item (writeItems items (']' :: rest)) (.array reversed :: frames)
      (isRest_writeItems items rest)
    have hitems := run_writeItems items rest (item.toTerm :: reversed) frames
    rw [List.reverse_cons, List.append_assoc, List.singleton_append] at hitems
    rw [writeItems, Token.run_comma, itemTerms]
    exact hitem.trans hitems

private theorem run_writeMembers : ∀ (members : List (String × Json)) (rest : List Char)
    (reversed : List (Spelling × Term)) (frames : List Frame),
    run (.afterMember reversed) frames (Token.run .between (writeMembers members ('\x7d' :: rest))) =
      run (complete (.object (reversed.reverse ++ memberTerms members) none) frames).1
        (complete (.object (reversed.reverse ++ memberTerms members) none) frames).2 (Token.run .between rest)
  | [], rest, reversed, frames => by
    rw [writeMembers, Token.run_closeObject, memberTerms, List.append_nil]
    rfl
  | (name, value) :: members, rest, reversed, frames => by
    have hvalue := run_write value (writeMembers members ('\x7d' :: rest)) (.object reversed (.text name) :: frames)
      (isRest_writeMembers members rest)
    have hmembers := run_writeMembers members rest ((.text name, value.toTerm) :: reversed) frames
    rw [List.reverse_cons, List.append_assoc, List.singleton_append] at hmembers
    rw [writeMembers, Token.run_comma, Token.run_writeString, Token.run_colon, memberTerms]
    exact hvalue.trans hmembers

end

end Term

/-- The document in the text of a value is the term of the value. -/
theorem ofChars_write (value : Json) : Document.ofChars (value.write []) = ⟨value.toTerm, false⟩ := by
  unfold Document.ofChars Token.ofChars
  rw [Term.run_write value [] [] trivial]
  rfl

/-- A decoder reads the text of a value as it reads the term of the value. -/
theorem Decoder.decode_render {α : Type} (d : Decoder α) (value : Json) :
    d.decode value.render = d maxDepth value.toTerm := by
  unfold Decoder.decode render
  simp only [String.toList_ofList, ofChars_write]
  cases d maxDepth value.toTerm <;> rfl

/-! ### Skipped values -/

mutual

/-- A value that is not wanted is passed over. -/
theorem fault?_toTerm : ∀ value : Json, value.toTerm.fault? = none
  | .null | .bool _ | .number _ | .string _ => rfl
  | .array items => by rw [toTerm, Term.fault?, firstFault?_itemTerms items]; rfl
  | .object members => by rw [toTerm, Term.fault?, firstMemberFault?_memberTerms members]; rfl

private theorem firstFault?_itemTerms : ∀ items : List Json, Term.firstFault? (itemTerms items) = none
  | [] => rfl
  | item :: items => by
    rw [itemTerms, Term.firstFault?, fault?_toTerm item, firstFault?_itemTerms items]
    rfl

private theorem firstMemberFault?_memberTerms :
    ∀ members : List (String × Json), Term.firstMemberFault? (memberTerms members) = none
  | [] => rfl
  | (name, value) :: members => by
    rw [memberTerms, Term.firstMemberFault?, fault?_toTerm value, firstMemberFault?_memberTerms members]
    rfl

end

end ConfigMigration.Json

import ConfigMigration.Json.Decoder

/-!
# Reading back written numbers

The text of a number is a numeral from its first character to its last.  For an integer the numeral holds its
decimal digits, so that it is read as the same integer wherever that fits 64 bits; for a double it always holds a
fraction or an exponent, so that it is never read as an integer.
-/

namespace ConfigMigration

namespace Json.Numeral

/-- How far a numeral is read behind characters that all belong to it. -/
def read? (stage : Stage) (numeral : Numeral) : List Char → Option (Stage × Numeral)
  | [] => some (stage, numeral)
  | c :: cs => (push? stage numeral c).bind fun next => read? next.1 next.2 cs

/-- How far the numeral of a text is read, from its sign on. -/
def ofText? : List Char → Option (Stage × Numeral)
  | [] => none
  | c :: cs => if c = '-' then read? .sign { negative := true } cs else read? .sign {} (c :: cs)

/-- The value of a digit. -/
def digitValue (c : Char) : Nat := c.toNat - '0'.toNat

theorem read?_append (stage : Stage) (numeral : Numeral) (cs ds : List Char) :
    read? stage numeral (cs ++ ds) = (read? stage numeral cs).bind fun next => read? next.1 next.2 ds := by
  induction cs generalizing stage numeral with
  | nil => rfl
  | cons c cs ih =>
    simp only [List.cons_append, read?]
    cases push? stage numeral c with
    | none => rfl
    | some next => exact ih next.1 next.2

private theorem digit?_eq {c : Char} (h : c.isDigit = true) : digit? c = some (digitValue c) := by
  simp [digit?, h, digitValue]

private theorem digitValue_eq_zero {c : Char} (h : c.isDigit = true) (h0 : digitValue c = 0) : c = '0' := by
  have hge : '0'.toNat ≤ c.toNat := by
    simp only [Char.isDigit, Bool.and_eq_true, decide_eq_true_eq] at h
    exact UInt32.le_iff_toNat_le.mp h.1
  refine Char.toNat_inj.mp (Nat.le_antisymm ?_ hge)
  unfold digitValue at h0
  omega

/-! ### Digits -/

/-- Where digits keep the stage and a property of the numeral, any number of digits does. -/
private theorem read?_digits {stage : Stage} {P : Numeral → Prop}
    (hpush : ∀ numeral c, P numeral → c.isDigit = true → ∃ next, push? stage numeral c = some (stage, next) ∧ P next)
    {cs : List Char} (hcs : ∀ c ∈ cs, c.isDigit = true) (numeral : Numeral) (h : P numeral) :
    ∃ next, read? stage numeral cs = some (stage, next) ∧ P next := by
  induction cs generalizing numeral with
  | nil => exact ⟨numeral, rfl, h⟩
  | cons c cs ih =>
    obtain ⟨next, hnext, hp⟩ := hpush numeral c h (hcs c (List.mem_cons_self ..))
    obtain ⟨last, hlast, hl⟩ := ih (fun d hd => hcs d (List.mem_cons_of_mem _ hd)) next hp
    exact ⟨last, by rw [read?, hnext]; exact hlast, hl⟩

private theorem push?_whole {c : Char} (h : c.isDigit = true) (numeral : Numeral) :
    push? .whole numeral c = some (.whole, { numeral with whole := numeral.whole ++ [digitValue c] }) := by
  simp [push?, digit?_eq h]

private theorem push?_sign_of_ne {c : Char} (h : c.isDigit = true) (h0 : c ≠ '0') (numeral : Numeral) :
    push? .sign numeral c = some (.whole, { numeral with whole := [digitValue c] }) := by
  have hv : digitValue c ≠ 0 := fun hv => h0 (digitValue_eq_zero h hv)
  unfold push?
  rw [digit?_eq h]
  split <;> simp_all

private theorem read?_whole {cs : List Char} (hcs : ∀ c ∈ cs, c.isDigit = true) (numeral : Numeral) :
    read? .whole numeral cs = some (.whole, { numeral with whole := numeral.whole ++ cs.map digitValue }) := by
  induction cs generalizing numeral with
  | nil => simp [read?]
  | cons c cs ih =>
    rw [read?, push?_whole (hcs c (List.mem_cons_self ..)), Option.bind_some,
      ih fun d hd => hcs d (List.mem_cons_of_mem _ hd)]
    simp

private theorem read?_point {stage : Stage} (hs : stage = .zero ∨ stage = .whole) (numeral : Numeral) (cs : List Char)
    (hcs : ∀ c ∈ cs, c.isDigit = true) (hne : cs ≠ []) :
    ∃ next, read? stage numeral ('.' :: cs) = some (.fraction, next) ∧ next.fraction ≠ [] := by
  have hpoint : push? stage numeral '.' = some (.point, numeral) := by
    rcases hs with rfl | rfl <;> rfl
  have hfraction (numeral : Numeral) (c : Char) (_ : numeral.fraction ≠ []) (hc : c.isDigit = true) :
      ∃ next, push? .fraction numeral c = some (.fraction, next) ∧ next.fraction ≠ [] :=
    ⟨{ numeral with fraction := numeral.fraction ++ [digitValue c] }, by simp [push?, digit?_eq hc], by simp⟩
  cases cs with
  | nil => exact absurd rfl hne
  | cons c cs =>
    have hc := hcs c (List.mem_cons_self ..)
    have hfirst : push? .point numeral c =
        some (.fraction, { numeral with fraction := numeral.fraction ++ [digitValue c] }) := by
      simp [push?, digit?_eq hc]
    obtain ⟨next, hnext, hf⟩ := read?_digits (P := fun numeral => numeral.fraction ≠ []) hfraction
      (fun d hd => hcs d (List.mem_cons_of_mem _ hd))
      { numeral with fraction := numeral.fraction ++ [digitValue c] } (by simp)
    refine ⟨next, ?_, hf⟩
    rw [read?, hpoint, Option.bind_some, read?, hfirst]
    exact hnext

private theorem read?_mark {stage : Stage} (hs : stage = .zero ∨ stage = .whole ∨ stage = .fraction)
    (numeral : Numeral) {sign : Char} (hsign : sign = '-' ∨ sign = '+') {cs : List Char}
    (hcs : ∀ c ∈ cs, c.isDigit = true) (hne : cs ≠ []) :
    ∃ next, read? stage numeral ('e' :: sign :: cs) = some (.exponent, next) ∧ next.exponent ≠ none := by
  have hmark : push? stage numeral 'e' = some (.mark, { numeral with exponent := some (false, []) }) := by
    rcases hs with rfl | rfl | rfl <;> rfl
  have hexponent (numeral : Numeral) (c : Char) (h : numeral.exponent ≠ none) (hc : c.isDigit = true) :
      ∃ next, push? .exponent numeral c = some (.exponent, next) ∧ next.exponent ≠ none :=
    ⟨numeral.pushExponent (digitValue c), by simp [push?, digit?_eq hc], by simpa [pushExponent] using h⟩
  obtain ⟨signed, hsigned, hs'⟩ : ∃ signed, push? .mark { numeral with exponent := some (false, []) } sign =
      some (.markSign, signed) ∧ signed.exponent ≠ none := by
    rcases hsign with rfl | rfl
    · exact ⟨_, rfl, by simp⟩
    · exact ⟨_, rfl, by simp⟩
  cases cs with
  | nil => exact absurd rfl hne
  | cons c cs =>
    have hc := hcs c (List.mem_cons_self ..)
    have hfirst : push? .markSign signed c = some (.exponent, signed.pushExponent (digitValue c)) := by
      simp [push?, digit?_eq hc]
    obtain ⟨next, hnext, he⟩ := read?_digits (P := fun numeral => numeral.exponent ≠ none) hexponent
      (fun d hd => hcs d (List.mem_cons_of_mem _ hd)) (signed.pushExponent (digitValue c))
      (by simpa [pushExponent] using hs')
    refine ⟨next, ?_, he⟩
    rw [read?, hmark, Option.bind_some, read?, hsigned, Option.bind_some, read?, hfirst]
    exact hnext

/-! ### Decimal digits -/

theorem isDigit_of_mem_digits {n : Nat} {c : Char} (h : c ∈ Decimal.digits n) : c.isDigit = true :=
  Nat.isDigit_of_mem_toDigits (by decide) (by decide) h

private theorem digits_of_lt {n : Nat} (h : n < 10) : Decimal.digits n = [n.digitChar] :=
  Nat.toDigits_of_lt_base h

private theorem digits_of_le {n : Nat} (h : 10 ≤ n) :
    Decimal.digits n = Decimal.digits (n / 10) ++ [(n % 10).digitChar] :=
  Nat.toDigits_of_base_le (by decide) h

private theorem digitValue_digitChar {n : Nat} (h : n < 10) : digitValue n.digitChar = n :=
  Nat.toNat_digitChar_sub_48_of_lt_ten h

private theorem digitChar_ne_zero {n : Nat} (h : n < 10) (h0 : n ≠ 0) : n.digitChar ≠ '0' := by
  intro he
  have hv := digitValue_digitChar h
  rw [he] at hv
  exact h0 hv.symm

private theorem digits_eq_cons {n : Nat} (h : n ≠ 0) : ∃ c cs, Decimal.digits n = c :: cs ∧ c ≠ '0' := by
  induction n using Nat.strongRecOn with
  | ind n ih =>
    by_cases hn : n < 10
    · exact ⟨_, [], digits_of_lt hn, digitChar_ne_zero hn h⟩
    · obtain ⟨c, cs, hcs, hc⟩ := ih (n / 10) (by omega) (by omega)
      exact ⟨c, cs ++ [(n % 10).digitChar], by rw [digits_of_le (by omega), hcs]; rfl, hc⟩

private theorem read?_sign_digits (numeral : Numeral) (n : Nat) :
    read? .sign numeral (Decimal.digits n) =
      some (if n = 0 then .zero else .whole, { numeral with whole := (Decimal.digits n).map digitValue }) := by
  by_cases hn : n = 0
  · subst hn
    rfl
  · obtain ⟨c, cs, hcs, hc⟩ := digits_eq_cons hn
    have hall : ∀ d ∈ c :: cs, d.isDigit = true := fun d hd => isDigit_of_mem_digits (n := n) (hcs ▸ hd)
    rw [hcs, read?, push?_sign_of_ne (hall c (List.mem_cons_self ..)) hc, Option.bind_some,
      read?_whole fun d hd => hall d (List.mem_cons_of_mem _ hd)]
    simp [hn]

/-- The leading digits of a number that fits 64 bits are the number itself. -/
private theorem foldl_pushWhole_digits {n : Nat} (h : n ≤ maxSignificand) :
    ((Decimal.digits n).map digitValue).foldl Lead.pushWhole {} = { significand := n } := by
  induction n using Nat.strongRecOn with
  | ind n ih =>
    by_cases hn : n < 10
    · rw [digits_of_lt hn]
      simp only [List.map_cons, List.map_nil, List.foldl_cons, List.foldl_nil, Lead.pushWhole,
        digitValue_digitChar hn]
      simp [Nat.not_lt.mpr h]
    · have hmod : n / 10 * 10 + n % 10 = n := by omega
      rw [digits_of_le (by omega), List.map_append, List.foldl_append, ih (n / 10) (by omega) (by omega)]
      simp only [List.map_cons, List.map_nil, List.foldl_cons, List.foldl_nil, Lead.pushWhole,
        digitValue_digitChar (Nat.mod_lt n (by decide)), hmod]
      simp [Nat.not_lt.mpr h]

private theorem full_pushWhole {l : Lead} (h : l.full = true) (d : Nat) : (l.pushWhole d).full = true := by
  simp [Lead.pushWhole, h]

/-- The digits of a number that does not fit 64 bits are cut. -/
private theorem full_foldl_pushWhole_digits {n : Nat} (h : maxSignificand < n) :
    (((Decimal.digits n).map digitValue).foldl Lead.pushWhole {}).full = true := by
  induction n using Nat.strongRecOn with
  | ind n ih =>
    have hn : ¬n < 10 := by
      unfold maxSignificand at h
      simp only [UInt64.size] at h
      omega
    have hmod : n / 10 * 10 + n % 10 = n := by omega
    rw [digits_of_le (by omega), List.map_append, List.foldl_append]
    by_cases hlt : maxSignificand < n / 10
    · exact full_pushWhole (ih (n / 10) (by omega) hlt) _
    · rw [foldl_pushWhole_digits (Nat.not_lt.mp hlt)]
      simp [Lead.pushWhole, digitValue_digitChar (Nat.mod_lt n (by decide)), hmod, h]

/-! ### Integers -/

private theorem ofText?_digits (n : Nat) :
    ofText? (Decimal.digits n) =
      some (if n = 0 then .zero else .whole, { whole := (Decimal.digits n).map digitValue }) := by
  have h := read?_sign_digits {} n
  cases hd : Decimal.digits n with
  | nil => exact absurd hd Nat.toDigits_ne_nil
  | cons c cs =>
    have hc : c ≠ '-' := by
      rintro rfl
      exact absurd (isDigit_of_mem_digits (n := n) (hd ▸ List.mem_cons_self ..)) (by decide)
    rw [hd] at h
    rw [ofText?, if_neg hc, h]

private theorem ofText?_neg_digits (n : Nat) :
    ofText? ('-' :: Decimal.digits n) =
      some (if n = 0 then .zero else .whole,
        { negative := true, whole := (Decimal.digits n).map digitValue }) := by
  rw [ofText?, if_pos rfl, read?_sign_digits]

private theorem ofText?_integerText (n : Int) :
    ∃ stage numeral, ofText? (integerText n) = some (stage, numeral) ∧ stage.isComplete = true := by
  cases n with
  | ofNat n => exact ⟨_, _, ofText?_digits n, by split <;> rfl⟩
  | negSucc n => exact ⟨_, _, ofText?_neg_digits (n + 1), by split <;> rfl⟩

/-! ### Doubles -/

/-- A numeral that stands for a double whatever its digits are. -/
def IsDouble (numeral : Numeral) : Prop := numeral.fraction ≠ [] ∨ numeral.exponent ≠ none

/-- Whether a text is read as a complete numeral for a double, from the digit behind its sign on. -/
private def ReadsDouble (numeral : Numeral) (cs : List Char) : Prop :=
  ∃ stage next, read? .sign numeral cs = some (stage, next) ∧ stage.isComplete = true ∧ IsDouble next

private theorem readsDouble_point {numeral next : Numeral} (stage : Stage) (cs : List Char) {ds : List Char}
    (h : read? .sign numeral cs = some (stage, next)) (hs : stage = .zero ∨ stage = .whole)
    (hds : ∀ c ∈ ds, c.isDigit = true) (hne : ds ≠ []) : ReadsDouble numeral (cs ++ '.' :: ds) := by
  obtain ⟨last, hlast, hf⟩ := read?_point hs next _ hds hne
  exact ⟨.fraction, last, by rw [read?_append, h, Option.bind_some, hlast], rfl, .inl hf⟩

private theorem readsDouble_mark {numeral next : Numeral} {stage : Stage} (cs : List Char) {ds : List Char}
    {sign : Char} (h : read? .sign numeral cs = some (stage, next))
    (hs : stage = .zero ∨ stage = .whole ∨ stage = .fraction) (hsign : sign = '-' ∨ sign = '+')
    (hds : ∀ c ∈ ds, c.isDigit = true) (hne : ds ≠ []) : ReadsDouble numeral (cs ++ 'e' :: sign :: ds) := by
  obtain ⟨last, hlast, he⟩ := read?_mark hs next hsign hds hne
  exact ⟨.exponent, last, by rw [read?_append, h, Option.bind_some, hlast], rfl, .inr he⟩

private theorem read?_sign_digit {c : Char} (h : c.isDigit = true) (numeral : Numeral) :
    ∃ stage next, read? .sign numeral [c] = some (stage, next) ∧ (stage = .zero ∨ stage = .whole) := by
  by_cases h0 : c = '0'
  · subst h0
    exact ⟨.zero, _, rfl, .inl rfl⟩
  · exact ⟨.whole, _, by rw [read?, push?_sign_of_ne h h0]; rfl, .inr rfl⟩

private theorem isDigit_of_mem_replicate {n : Nat} {c : Char} (h : c ∈ List.replicate n '0') : c.isDigit = true := by
  rw [(List.mem_replicate.mp h).2]
  rfl

/-- A decimal whose zero has no exponent shows a point or an exponent, in every layout of its text. -/
private theorem readsDouble_text (numeral : Numeral) {x : Decimal} (hx : x.coefficient = 0 → x.exponent = 0) :
    ReadsDouble numeral x.text := by
  have hdigits {c : Char} (h : c ∈ Decimal.digits x.coefficient) : c.isDigit = true := isDigit_of_mem_digits h
  have hne : Decimal.digits x.coefficient ≠ [] := Nat.toDigits_ne_nil
  unfold Decimal.text
  simp only
  split
  · rename_i hlead
    split
    · -- A whole number: the zeros of the exponent stand before the point.
      have hzero : ∀ c ∈ ['0'], c.isDigit = true := List.forall_mem_singleton.mpr rfl
      rw [show Decimal.digits x.coefficient ++ List.replicate x.exponent.toNat '0' ++ ['.', '0'] =
        (Decimal.digits x.coefficient ++ List.replicate x.exponent.toNat '0') ++ '.' :: ['0'] from rfl]
      by_cases h0 : x.coefficient = 0
      · rw [hx h0, h0]
        exact readsDouble_point .zero _ rfl (.inl rfl) hzero (by simp)
      · obtain ⟨next, hnext⟩ : ∃ next, read? .sign numeral
            (Decimal.digits x.coefficient ++ List.replicate x.exponent.toNat '0') = some (.whole, next) :=
          ⟨_, by rw [read?_append, read?_sign_digits, if_neg h0, Option.bind_some,
            read?_whole fun c hc => isDigit_of_mem_replicate hc]⟩
        exact readsDouble_point _ _ hnext (.inr rfl) hzero (by simp)
    · rename_i hexp
      split
      · -- The point stands among the digits, and some are left behind it.
        rename_i hpos
        have h0 : x.coefficient ≠ 0 := by
          intro h0
          have := hx h0
          omega
        obtain ⟨c, cs, hcs, hc⟩ := digits_eq_cons h0
        rw [hcs, List.length_cons] at hpos ⊢
        rw [hcs] at hdigits
        generalize hk : ((cs.length + 1 : Nat) - 1 + x.exponent : Int).toNat = k
        obtain ⟨next, hnext⟩ : ∃ next, read? .sign numeral ((c :: cs).take (k + 1)) = some (.whole, next) :=
          ⟨_, by rw [List.take_succ_cons, read?, push?_sign_of_ne (hdigits (List.mem_cons_self ..)) hc,
            Option.bind_some, read?_whole fun d hd => hdigits (List.mem_cons_of_mem _ (List.mem_of_mem_take hd))]⟩
        refine readsDouble_point _ _ hnext (.inr rfl) (fun d hd => hdigits (List.mem_of_mem_drop hd)) ?_
        intro hnil
        have := List.drop_eq_nil_iff.mp hnil
        simp only [List.length_cons] at this
        omega
      · refine readsDouble_point .zero ['0'] rfl (.inl rfl) ?_ (by simp [hne])
        intro c hc
        rcases List.mem_append.mp hc with hc | hc
        · exact isDigit_of_mem_replicate hc
        · exact hdigits hc
  · cases hds : Decimal.digits x.coefficient with
    | nil => exact absurd hds hne
    | cons c cs =>
      rw [hds] at hdigits
      obtain ⟨stage, next, hread, hs⟩ := read?_sign_digit (hdigits (List.mem_cons_self ..)) numeral
      have hsign (lead : Int) : (if lead < 0 then '-' else '+') = '-' ∨ (if lead < 0 then '-' else '+') = '+' := by
        split
        · exact .inl rfl
        · exact .inr rfl
      simp only [List.take_succ_cons, List.take_zero, List.drop_succ_cons, List.drop_zero]
      cases cs with
      | nil =>
        exact readsDouble_mark [c] hread (hs.imp_right .inl) (hsign _)
          (fun d hd => isDigit_of_mem_digits hd) Nat.toDigits_ne_nil
      | cons d cs =>
        obtain ⟨last, hlast, -⟩ := read?_point hs next (d :: cs)
          (fun e he => hdigits (List.mem_cons_of_mem _ he)) (by simp)
        have hfraction : read? .sign numeral ([c] ++ '.' :: d :: cs) = some (.fraction, last) := by
          rw [read?_append, hread, Option.bind_some, hlast]
        rw [List.append_assoc]
        exact readsDouble_mark _ hfraction (.inr (.inr rfl)) (hsign _)
          (fun e he => isDigit_of_mem_digits he) Nat.toDigits_ne_nil

private theorem significand_ne_zero {x : Binary64} (h : x.isZero = false) : x.significand ≠ 0 := by
  have h0 : x.magnitude ≠ 0 := by simpa [Binary64.isZero] using h
  unfold Binary64.significand
  split
  · exact h0
  · unfold Binary64.hiddenBit
    omega

private theorem coefficient_neighbour? {x : Binary64} (hx : x.isZero = false) {p : Int} {y : Decimal}
    (h : x.neighbour? p = some y) : y.coefficient ≠ 0 := by
  have hs := significand_ne_zero hx
  have hlow : 0 < x.lowerEnd := by
    unfold Binary64.lowerEnd
    split <;> omega
  unfold Binary64.neighbour? at h
  extract_lets e quarter step value below readsBack at h
  have hquarter : 0 < quarter := Nat.mul_pos (Nat.pow_pos (by decide)) (Nat.pow_pos (by decide))
  have hend := Nat.mul_pos hlow hquarter
  have hzero : readsBack 0 = false := by
    simp only [readsBack, Nat.zero_mul]
    split
    · rw [decide_eq_false (Nat.not_le_of_gt hend), Bool.false_and]
    · rw [decide_eq_false (Nat.not_lt_zero _), Bool.false_and]
  split at h
  · rename_i hback
    have hbelow : below ≠ 0 := by
      intro h0
      rw [h0, hzero] at hback
      exact Bool.false_ne_true hback
    split at h
    · cases h
      have hle : below ≤ Number.roundEven value step := Number.div_le_roundEven value step
      exact fun h0 => hbelow (Nat.le_zero.mp (h0 ▸ hle))
    · cases h
      exact hbelow
  · split at h
    · cases h
      exact Nat.succ_ne_zero _
    · cases h

private theorem coefficient_ofBinary64 {x : Binary64} (hx : x.isZero = false) :
    (Decimal.ofBinary64 x).coefficient ≠ 0 := by
  have hs := significand_ne_zero hx
  unfold Decimal.ofBinary64
  split
  · exact Nat.mul_ne_zero hs (Nat.ne_of_gt (Nat.pow_pos Nat.two_pos))
  · exact Nat.mul_ne_zero hs (Nat.ne_of_gt (Nat.pow_pos (Nat.succ_pos 4)))

private theorem coefficient_reduce {x : Decimal} (h : x.coefficient ≠ 0) : x.reduce.coefficient ≠ 0 := by
  fun_induction Decimal.reduce x with
  | case1 x hx ih => exact ih (by simp only; omega)
  | case2 x hx => exact h

private theorem exponent_shortest {x : Binary64} (h : x.shortest.coefficient = 0) : x.shortest.exponent = 0 := by
  cases hx : x.isZero with
  | true =>
    unfold Binary64.shortest
    rw [if_pos hx]
  | false =>
    refine absurd h ?_
    unfold Binary64.shortest
    simp only [hx, Bool.false_eq_true, if_false]
    apply coefficient_reduce
    generalize hf : (List.range 17).findSome? _ = found
    cases found with
    | none => exact coefficient_ofBinary64 hx
    | some y =>
      obtain ⟨places, -, hy⟩ := List.exists_of_findSome?_eq_some hf
      exact coefficient_neighbour? hx hy

private theorem ofText?_binary64 (x : Binary64) :
    ∃ stage numeral, ofText? x.text = some (stage, numeral) ∧ stage.isComplete = true ∧ IsDouble numeral := by
  unfold Binary64.text
  split
  · exact readsDouble_text { negative := true } exponent_shortest
  · obtain ⟨stage, numeral, hread, h⟩ := readsDouble_text {} (x := x.shortest) exponent_shortest
    refine ⟨stage, numeral, ?_, h⟩
    cases ht : x.shortest.text with
    | nil =>
      rw [ht] at hread
      cases hread
      exact absurd h.1 (by decide)
    | cons c cs =>
      rw [ht] at hread
      have hc : c ≠ '-' := by
        rintro rfl
        cases hread
      rw [ofText?, if_neg hc, hread]

end Json.Numeral

open Json

/-- The numeral that the text of a number is read as. -/
def Number.numeral (n : Number) : Numeral :=
  ((Numeral.ofText? n.text).map Prod.snd).getD {}

namespace Number

/-- The text of a number is its numeral, and the numeral may end there. -/
theorem ofText?_text (n : Number) :
    ∃ stage, Numeral.ofText? n.text = some (stage, n.numeral) ∧ stage.isComplete = true := by
  unfold numeral
  cases n with
  | integer n =>
    obtain ⟨stage, numeral, h, hs⟩ := Numeral.ofText?_integerText n
    exact ⟨stage, by simp [text, h], hs⟩
  | double x =>
    obtain ⟨stage, numeral, h, hs, -⟩ := Numeral.ofText?_binary64 x
    exact ⟨stage, by simp [text, h], hs⟩

private theorem map_double_ne_integer (x : Option Binary64) (k : Int) : x.map double ≠ some (.integer k) := by
  cases x <;> simp

private theorem toNumber?_ne_integer {numeral : Numeral} (h : numeral.IsDouble) (k : Int) :
    numeral.toNumber? ≠ some (.integer k) := by
  have hd : (numeral.fraction.isEmpty && numeral.exponent.isNone) = false := by
    rcases h with h | h
    · simp [h]
    · cases he : numeral.exponent with
      | none => exact absurd he h
      | some _ => simp
  unfold Numeral.toNumber?
  simp only [hd, Bool.false_and, Bool.false_eq_true, if_false]
  exact map_double_ne_integer _ k

private theorem toNumber?_ofNat {n : Nat} (h : n ≤ Numeral.maxSignificand) :
    (integer n).numeral.toNumber? = some (.integer n) := by
  simp only [numeral, text, integerText, Numeral.ofText?_digits n, Option.map_some, Option.getD_some,
    Numeral.toNumber?, Numeral.foldl_pushWhole_digits h]
  simp

private theorem toNumber?_ofNat_of_lt {n : Nat} (h : Numeral.maxSignificand < n) (k : Int) :
    (integer n).numeral.toNumber? ≠ some (.integer k) := by
  simp only [numeral, text, integerText, Numeral.ofText?_digits n, Option.map_some, Option.getD_some,
    Numeral.toNumber?, Numeral.full_foldl_pushWhole_digits h, Bool.not_true, Bool.and_false,
    Bool.false_eq_true, if_false]
  exact map_double_ne_integer _ k

private theorem toNumber?_negSucc (n k : Nat) : (integer (.negSucc n)).numeral.toNumber? ≠ some (.integer k) := by
  simp only [numeral, text, integerText, Numeral.ofText?_neg_digits (n + 1), Option.map_some, Option.getD_some,
    Numeral.toNumber?]
  generalize ((Decimal.digits (n + 1)).map Numeral.digitValue).foldl Numeral.Lead.pushWhole {} = lead
  intro h
  split at h
  · split at h
    · rename_i hfalse
      exact absurd hfalse (by decide)
    · split at h
      · rename_i hs
        simp only [Bool.and_eq_true, decide_eq_true_eq] at hs
        simp only [Option.some.injEq, integer.injEq] at h
        omega
      · exact map_double_ne_integer _ _ h
  · exact map_double_ne_integer _ _ h

/-- An integer of 64 bits, with a sign or without one, is read as what it is. -/
theorem toNumber?_integer {n : Int} (hlow : -0x8000000000000000 ≤ n) (hhigh : n ≤ Numeral.maxSignificand) :
    (integer n).numeral.toNumber? = some (.integer n) := by
  cases n with
  | ofNat n => exact toNumber?_ofNat (Int.ofNat_le.mp hhigh)
  | negSucc n =>
    have hn : n + 1 ≤ 0x8000000000000000 := by omega
    have hfit : n + 1 ≤ Numeral.maxSignificand := Nat.le_trans hn (by decide)
    simp only [numeral, text, integerText, Numeral.ofText?_neg_digits (n + 1), Option.map_some, Option.getD_some,
      Numeral.toNumber?, Numeral.foldl_pushWhole_digits hfit]
    simp [hn, Int.negSucc_eq]

/-- A number is read as a natural number of 64 bits only if it is that number. -/
theorem toNumber?_numeral_eq_integer_iff {n : Number} {k : Nat} (hk : k ≤ Numeral.maxSignificand) :
    n.numeral.toNumber? = some (.integer k) ↔ n = .integer k := by
  refine ⟨fun h => ?_, fun h => h ▸ toNumber?_ofNat hk⟩
  cases n with
  | integer m =>
    cases m with
    | ofNat m =>
      by_cases hm : m ≤ Numeral.maxSignificand
      · rw [Int.ofNat_eq_natCast, toNumber?_ofNat hm] at h
        simpa using h
      · exact absurd h (toNumber?_ofNat_of_lt (Nat.not_le.mp hm) k)
    | negSucc m => exact absurd h (toNumber?_negSucc m k)
  | double x =>
    obtain ⟨stage, numeral, ht, -, hd⟩ := Numeral.ofText?_binary64 x
    refine absurd h ?_
    rw [Number.numeral, text, ht]
    exact toNumber?_ne_integer hd k

end Number

end ConfigMigration

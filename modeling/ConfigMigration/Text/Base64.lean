/-!
# Base 64

Bytes as text of 64 characters: three bytes are written as four characters of six bits each, and a last group of one
or two bytes is filled up with equals signs.  Each list of bytes has one text: what is read is exactly what is
written (`decode_eq_some_iff`).
-/

namespace ConfigMigration.Base64

/-- The character of a number below 64. -/
def symbol (n : Nat) : Char :=
  if n < 26 then Char.ofNat ('A'.toNat + n)
  else if n < 52 then Char.ofNat ('a'.toNat + (n - 26))
  else if n < 62 then Char.ofNat ('0'.toNat + (n - 52))
  else if n = 62 then '+'
  else '/'

/-- The number of a character. -/
def value? (c : Char) : Option Nat :=
  if 'A' ≤ c ∧ c ≤ 'Z' then some (c.toNat - 'A'.toNat)
  else if 'a' ≤ c ∧ c ≤ 'z' then some (c.toNat - 'a'.toNat + 26)
  else if '0' ≤ c ∧ c ≤ '9' then some (c.toNat - '0'.toNat + 52)
  else if c = '+' then some 62
  else if c = '/' then some 63
  else none

/-- The text of bytes. -/
def encode : List UInt8 → List Char
  | [] => []
  | [a] => [symbol (a.toNat / 4), symbol (a.toNat % 4 * 16), '=', '=']
  | [a, b] =>
    [symbol (a.toNat / 4), symbol (a.toNat % 4 * 16 + b.toNat / 16), symbol (b.toNat % 16 * 4), '=']
  | a :: b :: c :: rest =>
    symbol (a.toNat / 4) :: symbol (a.toNat % 4 * 16 + b.toNat / 16) ::
      symbol (b.toNat % 16 * 4 + c.toNat / 64) :: symbol (c.toNat % 64) :: encode rest

/-- The bytes of a group of four characters. -/
def decodeGroup (a b c d : Char) : Option (List UInt8) := do
  let x ← value? a
  let y ← value? b
  let z ← value? c
  let w ← value? d
  return [(x * 4 + y / 16).toUInt8, (y % 16 * 16 + z / 4).toUInt8, (z % 4 * 64 + w).toUInt8]

/-- The bytes of the last group of four characters, which may be filled up. -/
def decodeLast (a b c d : Char) : Option (List UInt8) :=
  if d ≠ '=' then decodeGroup a b c d
  else do
    let x ← value? a
    let y ← value? b
    if c = '=' then
      if y % 16 = 0 then some [(x * 4 + y / 16).toUInt8] else none
    else
      let z ← value? c
      if z % 4 = 0 then some [(x * 4 + y / 16).toUInt8, (y % 16 * 16 + z / 4).toUInt8] else none

/-- The bytes of a text. -/
def decode : List Char → Option (List UInt8)
  | [] => some []
  | [a, b, c, d] => decodeLast a b c d
  | a :: b :: c :: d :: rest => do return (← decodeGroup a b c d) ++ (← decode rest)
  | _ => none

/-! ### Reading what was written -/

theorem value?_symbol {n : Nat} (h : n < 64) : value? (symbol n) = some n :=
  (by decide : ∀ m < 64, value? (symbol m) = some m) n h

theorem symbol_ne_padding {n : Nat} (h : n < 64) : symbol n ≠ '=' :=
  (by decide : ∀ m < 64, symbol m ≠ '=') n h

theorem toUInt8_of_toNat_eq {n : Nat} {b : UInt8} (h : n = b.toNat) : n.toUInt8 = b := by
  subst h
  exact UInt8.ofNat_toNat

theorem decodeGroup_symbols (a b c : UInt8) :
    decodeGroup (symbol (a.toNat / 4)) (symbol (a.toNat % 4 * 16 + b.toNat / 16))
      (symbol (b.toNat % 16 * 4 + c.toNat / 64)) (symbol (c.toNat % 64)) = some [a, b, c] := by
  have ha := a.toNat_lt
  have hb := b.toNat_lt
  have hc := c.toNat_lt
  unfold decodeGroup
  rw [value?_symbol (by omega), value?_symbol (by omega), value?_symbol (by omega), value?_symbol (by omega)]
  simp only [Option.bind_eq_bind, Option.bind_some, Option.pure_def]
  rw [toUInt8_of_toNat_eq (show _ = a.toNat by omega), toUInt8_of_toNat_eq (show _ = b.toNat by omega),
    toUInt8_of_toNat_eq (show _ = c.toNat by omega)]

theorem decode_cons_of_ne_nil {a b c d : Char} {rest : List Char} (h : rest ≠ []) :
    decode (a :: b :: c :: d :: rest) = do return (← decodeGroup a b c d) ++ (← decode rest) := by
  cases rest with
  | nil => exact absurd rfl h
  | cons e rest => rfl

theorem encode_ne_nil {bytes : List UInt8} (h : bytes ≠ []) : encode bytes ≠ [] := by
  fun_cases encode bytes <;> simp_all

/-- What is written is read back. -/
theorem decode_encode (bytes : List UInt8) : decode (encode bytes) = some bytes := by
  fun_induction encode bytes with
  | case1 => rfl
  | case2 a =>
    have ha := a.toNat_lt
    simp only [decode, decodeLast, ne_eq, not_true_eq_false, if_false, if_true]
    rw [value?_symbol (by omega), value?_symbol (by omega)]
    simp only [Option.bind_eq_bind, Option.bind_some]
    rw [if_pos (by omega), toUInt8_of_toNat_eq (show _ = a.toNat by omega)]
  | case3 a b =>
    have ha := a.toNat_lt
    have hb := b.toNat_lt
    simp only [decode, decodeLast, ne_eq, not_true_eq_false, if_false]
    rw [value?_symbol (by omega), value?_symbol (by omega), value?_symbol (show b.toNat % 16 * 4 < 64 by omega)]
    simp only [Option.bind_eq_bind, Option.bind_some]
    rw [if_neg (symbol_ne_padding (by omega)), if_pos (by omega), toUInt8_of_toNat_eq (show _ = a.toNat by omega),
      toUInt8_of_toNat_eq (show _ = b.toNat by omega)]
  | case4 a b c rest ih =>
    have hc := c.toNat_lt
    by_cases h : rest = []
    · subst h
      simp only [encode, decode, decodeLast]
      rw [if_pos (symbol_ne_padding (by omega)), decodeGroup_symbols]
    · rw [decode_cons_of_ne_nil (encode_ne_nil h), decodeGroup_symbols, ih]
      rfl

/-! ### Reading nothing else -/

theorem value?_eq_none {c : Char} (h : 128 ≤ c.toNat) : value? c = none := by
  have below (d : Char) (hd : d.toNat < 128) : ¬c ≤ d := fun hc => by
    have : c.toNat ≤ d.toNat := hc
    omega
  have other (d : Char) (hd : d.toNat < 128) : c ≠ d := fun hc => by subst hc; omega
  simp [value?, below 'Z' (by decide), below 'z' (by decide), below '9' (by decide), other '+' (by decide),
    other '/' (by decide)]

theorem symbol_of_value? {c : Char} {n : Nat} (h : value? c = some n) : n < 64 ∧ symbol n = c := by
  have table : ∀ m < 128, (value? (Char.ofNat m)).all fun n => n < 64 && symbol n = Char.ofNat m := by decide
  by_cases hc : c.toNat < 128
  · have := table c.toNat hc
    rw [Char.ofNat_toNat, h] at this
    simpa using this
  · rw [value?_eq_none (by omega)] at h
    exact absurd h (by simp)

theorem toNat_toUInt8 {n : Nat} (h : n < 256) : n.toUInt8.toNat = n := by
  change n % 256 = n
  omega

theorem encode_of_decodeGroup {a b c d : Char} {bytes : List UInt8} (h : decodeGroup a b c d = some bytes)
    (rest : List UInt8) : encode (bytes ++ rest) = a :: b :: c :: d :: encode rest := by
  simp only [decodeGroup, Option.bind_eq_bind, Option.bind_eq_some_iff, Option.pure_def, Option.some.injEq] at h
  obtain ⟨x, hx, y, hy, z, hz, w, hw, rfl⟩ := h
  obtain ⟨hx, rfl⟩ := symbol_of_value? hx
  obtain ⟨hy, rfl⟩ := symbol_of_value? hy
  obtain ⟨hz, rfl⟩ := symbol_of_value? hz
  obtain ⟨hw, rfl⟩ := symbol_of_value? hw
  simp only [List.cons_append, List.nil_append, encode]
  rw [toNat_toUInt8 (by omega), toNat_toUInt8 (by omega), toNat_toUInt8 (by omega)]
  rw [show (x * 4 + y / 16) / 4 = x by omega,
    show (x * 4 + y / 16) % 4 * 16 + (y % 16 * 16 + z / 4) / 16 = y by omega,
    show (y % 16 * 16 + z / 4) % 16 * 4 + (z % 4 * 64 + w) / 64 = z by omega,
    show (z % 4 * 64 + w) % 64 = w by omega]

theorem encode_of_decodeLast {a b c d : Char} {bytes : List UInt8} (h : decodeLast a b c d = some bytes) :
    encode bytes = [a, b, c, d] := by
  unfold decodeLast at h
  split at h
  · simpa [encode] using encode_of_decodeGroup h []
  · next hd =>
    simp only [ne_eq, Decidable.not_not] at hd
    subst hd
    simp only [Option.bind_eq_bind, Option.bind_eq_some_iff] at h
    obtain ⟨x, hx, y, hy, h⟩ := h
    obtain ⟨hx, rfl⟩ := symbol_of_value? hx
    obtain ⟨hy, rfl⟩ := symbol_of_value? hy
    split at h
    · next hc =>
      subst hc
      split at h
      · cases h
        simp only [encode]
        rw [toNat_toUInt8 (by omega), show (x * 4 + y / 16) / 4 = x by omega,
          show (x * 4 + y / 16) % 4 * 16 = y by omega]
      · exact absurd h (by simp)
    · simp only [Option.bind_eq_some_iff] at h
      obtain ⟨z, hz, h⟩ := h
      obtain ⟨hz, rfl⟩ := symbol_of_value? hz
      split at h
      · cases h
        simp only [encode]
        rw [toNat_toUInt8 (by omega), toNat_toUInt8 (by omega), show (x * 4 + y / 16) / 4 = x by omega,
          show (x * 4 + y / 16) % 4 * 16 + (y % 16 * 16 + z / 4) / 16 = y by omega,
          show (y % 16 * 16 + z / 4) % 16 * 4 = z by omega]
      · exact absurd h (by simp)

theorem encode_of_decode {text : List Char} {bytes : List UInt8} (h : decode text = some bytes) :
    encode bytes = text := by
  fun_induction decode text generalizing bytes with
  | case1 => cases h; rfl
  | case2 => exact encode_of_decodeLast h
  | case3 a b c d rest _ ih =>
    simp only [Option.bind_eq_bind, Option.bind_eq_some_iff, Option.pure_def, Option.some.injEq] at h
    obtain ⟨first, hf, later, hl, rfl⟩ := h
    rw [encode_of_decodeGroup hf, ih hl]
  | case4 => exact absurd h (by simp)

/-- Reading accepts exactly what writing produces. -/
theorem decode_eq_some_iff {text : List Char} {bytes : List UInt8} :
    decode text = some bytes ↔ text = encode bytes :=
  ⟨fun h => (encode_of_decode h).symm, fun h => h ▸ decode_encode bytes⟩

end ConfigMigration.Base64

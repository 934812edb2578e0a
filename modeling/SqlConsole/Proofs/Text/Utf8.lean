import SqlConsole.Text.Utf8

/-! Text that is encoded, and decoded again block by block. -/
namespace SqlConsole.Text

/-- Blocks are decoded one after the other; a character may lie in two of them. -/
theorem decodeBlock_append (u : Option Unfinished) (a b : List UInt8) :
    decodeBlock u (a ++ b) = (decodeBlock u a).bind fun (cs, u') =>
      (decodeBlock u' b).map fun (ds, u'') => (cs ++ ds, u'') := by
  induction a generalizing u with
  | nil => simp [decodeBlock]
  | cons x a ih =>
    cases u with
    | none =>
      rw [List.cons_append, decodeBlock, decodeBlock]
      cases lead x with
      | whole c => simp [ih, Function.comp_def, Option.map_bind, Option.bind_map]
      | opens u => simp [ih]
      | illFormed => rfl
    | some u =>
      rw [List.cons_append, decodeBlock, decodeBlock]
      cases u.next x with
      | whole c => simp [ih, Function.comp_def, Option.map_bind, Option.bind_map]
      | opens u => simp [ih]
      | illFormed => rfl

section
variable {n : Nat}

private theorem lead_one (h : n < 0x80) : lead (UInt8.ofNat n) = .whole (Char.ofNat n) := by
  simp [lead, UInt8.lt_iff_toNat_lt, Nat.mod_eq_of_lt (show n < 256 by omega), h]

private theorem lead_two (h : 0xC2 ≤ n ∧ n < 0xE0) :
    lead (UInt8.ofNat n) = .opens ⟨n - 0xC0, 1, 0x80, 0xBF⟩ := by
  have hn : n % 256 = n := Nat.mod_eq_of_lt (by omega)
  simp [lead, UInt8.lt_iff_toNat_lt, hn, h.2, show ¬ n < 0x80 by omega, show ¬ n < 0xC2 by omega]

private theorem lead_three (h : 0xE0 ≤ n ∧ n < 0xF0) :
    lead (UInt8.ofNat n) = .opens
      ⟨n - 0xE0, 2, if n = 0xE0 then 0xA0 else 0x80, if n = 0xED then 0x9F else 0xBF⟩ := by
  have hn : n % 256 = n := Nat.mod_eq_of_lt (by omega)
  simp [lead, UInt8.lt_iff_toNat_lt, ← UInt8.toNat_inj, hn, h.2, show ¬ n < 0x80 by omega,
    show ¬ n < 0xC2 by omega, show ¬ n < 0xE0 by omega]

private theorem lead_four (h : 0xF0 ≤ n ∧ n < 0xF5) :
    lead (UInt8.ofNat n) = .opens
      ⟨n - 0xF0, 3, if n = 0xF0 then 0x90 else 0x80, if n = 0xF4 then 0x8F else 0xBF⟩ := by
  have hn : n % 256 = n := Nat.mod_eq_of_lt (by omega)
  simp [lead, UInt8.lt_iff_toNat_lt, ← UInt8.toNat_inj, hn, h.2, show ¬ n < 0x80 by omega,
    show ¬ n < 0xC2 by omega, show ¬ n < 0xE0 by omega, show ¬ n < 0xF0 by omega]

/-- A byte in the middle of a character holds six bits of it. -/
private theorem next_opens (u : Unfinished)
    (h : u.low.toNat ≤ n % 64 + 0x80 ∧ n % 64 + 0x80 ≤ u.high.toNat) (hmissing : 1 < u.missing) :
    u.next (UInt8.ofNat (n % 64 + 0x80)) =
      .opens ⟨u.bits * 64 + n % 64, u.missing - 1, 0x80, 0xBF⟩ := by
  have hn : (n % 64 + 0x80) % 256 = n % 64 + 0x80 := Nat.mod_eq_of_lt (by omega)
  simp only [Unfinished.next, UInt8.le_iff_toNat_le, UInt8.toNat_ofNat', hn, h, and_self, if_true,
    if_neg (show ¬ u.missing ≤ 1 by omega), Nat.add_sub_cancel]

private theorem next_whole (bits : Nat) :
    Unfinished.next ⟨bits, 1, 0x80, 0xBF⟩ (UInt8.ofNat (n % 64 + 0x80)) =
      .whole (Char.ofNat (bits * 64 + n % 64)) := by
  have hn : (n % 64 + 0x80) % 256 = n % 64 + 0x80 := Nat.mod_eq_of_lt (by omega)
  have hrange : (0x80 : UInt8).toNat ≤ n % 64 + 0x80 ∧ n % 64 + 0x80 ≤ (0xBF : UInt8).toNat := by
    show 0x80 ≤ _ ∧ _ ≤ 0xBF
    omega
  simp only [Unfinished.next, UInt8.le_iff_toNat_le, UInt8.toNat_ofNat', hn, hrange, and_self,
    if_true, Nat.le_refl, Nat.add_sub_cancel]

end

private theorem toNat_ite {p : Prop} [Decidable p] (a b : UInt8) :
    (if p then a else b).toNat = if p then a.toNat else b.toNat := by split <;> rfl

theorem decodeBlock_char (c : Char) (r : List UInt8) :
    decodeBlock none (String.utf8EncodeChar c ++ r) =
      (decodeBlock none r).map fun (cs, u) => (c :: cs, u) := by
  have hvalid : c.toNat < 0xD800 ∨ 0xDFFF < c.toNat ∧ c.toNat < 0x110000 := c.valid
  have hc : c.val.toNat = c.toNat := rfl
  unfold String.utf8EncodeChar
  simp only [hc]
  generalize hv : c.toNat = v at hvalid
  have hchar : Char.ofNat v = c := by rw [← hv, Char.ofNat_toNat]
  split
  · next h1 =>
    have hlead := lead_one (show v < 0x80 by omega)
    simp only [List.cons_append, List.nil_append, decodeBlock, hlead, hchar]
  split
  · next h1 h2 =>
    have hlead := lead_two (show 0xC2 ≤ v / 64 % 32 + 0xC0 ∧ v / 64 % 32 + 0xC0 < 0xE0 by omega)
    have hlast := next_whole (n := v) (v / 64 % 32 + 0xC0 - 0xC0)
    rw [show (v / 64 % 32 + 0xC0 - 0xC0) * 64 + v % 64 = v by omega, hchar] at hlast
    simp only [List.cons_append, List.nil_append, decodeBlock, hlead, hlast]
  split
  · next h1 h2 h3 =>
    -- The range of the second byte leaves out overlong forms and surrogates; `c` is neither.
    have hlead :=
      lead_three (show 0xE0 ≤ v / 4096 % 16 + 0xE0 ∧ v / 4096 % 16 + 0xE0 < 0xF0 by omega)
    have hnext := next_opens (n := v / 64) ⟨v / 4096 % 16 + 0xE0 - 0xE0, 2,
        if v / 4096 % 16 + 0xE0 = 0xE0 then 0xA0 else 0x80,
        if v / 4096 % 16 + 0xE0 = 0xED then 0x9F else 0xBF⟩ (by
      simp only [toNat_ite]
      show (if _ then 0xA0 else 0x80) ≤ _ ∧ _ ≤ (if _ then 0x9F else 0xBF)
      split <;> split <;> omega) (show 1 < 2 by decide)
    have hlast := next_whole (n := v) ((v / 4096 % 16 + 0xE0 - 0xE0) * 64 + v / 64 % 64)
    rw [show ((v / 4096 % 16 + 0xE0 - 0xE0) * 64 + v / 64 % 64) * 64 + v % 64 = v by omega,
      hchar] at hlast
    simp only [List.cons_append, List.nil_append, decodeBlock, hlead, hnext, hlast]
  · next h1 h2 h3 =>
    -- Likewise overlong forms, and code points past the last one.
    have hlead :=
      lead_four (show 0xF0 ≤ v / 262144 % 8 + 0xF0 ∧ v / 262144 % 8 + 0xF0 < 0xF5 by omega)
    have hsecond := next_opens (n := v / 4096) ⟨v / 262144 % 8 + 0xF0 - 0xF0, 3,
        if v / 262144 % 8 + 0xF0 = 0xF0 then 0x90 else 0x80,
        if v / 262144 % 8 + 0xF0 = 0xF4 then 0x8F else 0xBF⟩ (by
      simp only [toNat_ite]
      show (if _ then 0x90 else 0x80) ≤ _ ∧ _ ≤ (if _ then 0x8F else 0xBF)
      split <;> split <;> omega) (show 1 < 3 by decide)
    have hthird := next_opens (n := v / 64)
      ⟨(v / 262144 % 8 + 0xF0 - 0xF0) * 64 + v / 4096 % 64, 2, 0x80, 0xBF⟩ (by
      show 0x80 ≤ _ ∧ _ ≤ 0xBF
      omega) (show 1 < 2 by decide)
    have hlast := next_whole (n := v)
      (((v / 262144 % 8 + 0xF0 - 0xF0) * 64 + v / 4096 % 64) * 64 + v / 64 % 64)
    rw [show (((v / 262144 % 8 + 0xF0 - 0xF0) * 64 + v / 4096 % 64) * 64 + v / 64 % 64) * 64 +
      v % 64 = v by omega, hchar] at hlast
    simp only [List.cons_append, List.nil_append, decodeBlock, hlead, hsecond, hthird, hlast]

/-- What is encoded decodes, and leaves no character unfinished. -/
theorem decodeBlock_utf8 (s : List Char) : decodeBlock none (utf8 s) = some (s, none) := by
  induction s with
  | nil => rfl
  | cons c s ih =>
    rw [utf8, List.flatMap_cons, decodeBlock_char, ← utf8, ih]
    rfl

theorem decodeFrom_of_decodeBlock {u : Option Unfinished} {bytes : List UInt8} {cs : List Char}
    (h : decodeBlock u bytes = some (cs, none)) : decodeFrom u bytes = cs := by
  induction bytes generalizing u cs with
  | nil =>
    obtain ⟨rfl, rfl⟩ : [] = cs ∧ u = none := by simpa [decodeBlock] using h
    rfl
  | cons b bytes ih =>
    cases u with
    | none =>
      rw [decodeBlock] at h
      rw [decodeFrom]
      cases hlead : lead b with
      | whole c =>
        obtain ⟨ds, hds, rfl⟩ : ∃ ds, decodeBlock none bytes = some (ds, none) ∧ c :: ds = cs := by
          simpa [hlead] using h
        simp [ih hds]
      | opens u => exact ih (by simpa [hlead] using h)
      | illFormed => simp [hlead] at h
    | some u =>
      rw [decodeBlock] at h
      rw [decodeFrom]
      cases hnext : u.next b with
      | whole c =>
        obtain ⟨ds, hds, rfl⟩ : ∃ ds, decodeBlock none bytes = some (ds, none) ∧ c :: ds = cs := by
          simpa [hnext] using h
        simp [ih hds]
      | opens u' => exact ih (by simpa [hnext] using h)
      | illFormed => simp [hnext] at h

theorem decode_utf8 (s : List Char) : decode (utf8 s) = s :=
  decodeFrom_of_decodeBlock (decodeBlock_utf8 s)

theorem length_le_length_utf8 (s : List Char) : s.length ≤ (utf8 s).length := by
  induction s with
  | nil => exact Nat.le_refl 0
  | cons c s ih =>
    have hc : 0 < (String.utf8EncodeChar c).length := by
      rw [String.length_utf8EncodeChar]
      exact c.utf8Size_pos
    rw [utf8, List.flatMap_cons, List.length_append, List.length_cons, ← utf8]
    omega

end SqlConsole.Text

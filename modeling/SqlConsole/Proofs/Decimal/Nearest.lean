import Mathlib.Algebra.Order.Field.Power
import Mathlib.Algebra.Order.Field.Rat
import Mathlib.Algebra.Ring.Parity
import Mathlib.Tactic.FieldSimp
import Mathlib.Tactic.Linarith
import Mathlib.Tactic.Positivity
import Mathlib.Tactic.Ring
import SqlConsole.Decimal.Significant

/-! Rounding to significant digits is correct: of all decimals with as many digits it gives the nearest
one, and no other decimal is both nearest and even where two are as near. -/
namespace SqlConsole.Decimal

/-- A whole number nearest to `x`, an even one halfway between two. -/
structure IsRounded (x : ℚ) (m : ℤ) : Prop where
  near : |x - m| ≤ 1 / 2
  even : |x - m| = 1 / 2 → Even m

namespace IsRounded
variable {x : ℚ} {m : ℤ}

private theorem le_abs_sub {k : ℤ} (hk : k ≠ m) : 1 - |x - m| ≤ |x - k| := by
  have hone : (1 : ℚ) ≤ |(k : ℚ) - m| := by
    exact_mod_cast Int.one_le_abs (sub_ne_zero.2 hk)
  have htriangle : |(k : ℚ) - m| ≤ |x - k| + |x - m| := by
    rw [abs_sub_comm x k]
    exact abs_sub_le (k : ℚ) x m
  linarith

/-- No whole number is nearer. -/
theorem abs_sub_le_abs_sub (h : IsRounded x m) (k : ℤ) : |x - m| ≤ |x - k| := by
  rcases eq_or_ne k m with rfl | hk
  · exact le_rfl
  · have := le_abs_sub (x := x) hk
    have := h.near
    linarith

theorem even_of_tie (h : IsRounded x m) {k : ℤ} (hk : k ≠ m) (htie : |x - m| = |x - k|) : Even m := by
  have := le_abs_sub (x := x) hk
  have := h.near
  exact h.even (by linarith)

theorem le_of_le (h : IsRounded x m) {k : ℤ} (hk : (k : ℚ) ≤ x) : k ≤ m := by
  by_contra hlt
  have hm : (m : ℚ) ≤ k - 1 := by exact_mod_cast Int.le_sub_one_of_lt (not_le.1 hlt)
  have := (abs_le.1 h.near).2
  linarith

theorem le_of_ge (h : IsRounded x m) {k : ℤ} (hk : x ≤ k) : m ≤ k := by
  by_contra hlt
  have hm : (k : ℚ) + 1 ≤ m := by exact_mod_cast not_le.1 hlt
  have := (abs_le.1 h.near).1
  linarith

theorem down {q : ℤ} {f : ℚ} (hf : 0 ≤ f) (hhalf : f ≤ 1 / 2) (htie : f = 1 / 2 → Even q) :
    IsRounded (q + f) q where
  near := by rwa [add_sub_cancel_left, abs_of_nonneg hf]
  even h := htie (by rwa [add_sub_cancel_left, abs_of_nonneg hf] at h)

theorem up {q : ℤ} {f : ℚ} (hf : f ≤ 1) (hhalf : 1 / 2 ≤ f) (htie : f = 1 / 2 → ¬ Even q) :
    IsRounded (q + f) (q + 1 : ℤ) := by
  have habs : |(q : ℚ) + f - (q + 1 : ℤ)| = 1 - f := by
    rw [abs_sub_comm, abs_of_nonneg] <;> push_cast <;> linarith
  refine ⟨by rw [habs]; linarith, fun h => ?_⟩
  rw [habs] at h
  exact Int.even_add_one.2 (htie (by linarith))

end IsRounded

theorem isRounded_roundDiv (a : Nat) {b : Nat} (hb : 0 < b) :
    IsRounded ((a : ℚ) / b) (roundDiv a b : Nat) := by
  have hpos : (0 : ℚ) < b := by exact_mod_cast hb
  have hdiv : (b : ℚ) * (a / b : Nat) + (a % b : Nat) = a := by exact_mod_cast Nat.div_add_mod a b
  have hquotient : (a : ℚ) / b = ((a / b : Nat) : ℤ) + (a % b : Nat) / b := by
    rw [Int.cast_natCast, div_eq_iff hpos.ne', ← hdiv]
    field_simp
  have hr := Nat.mod_lt a hb
  -- Comparing the fraction with a half is comparing the remainder with half the divisor.
  have hle : ((a % b : Nat) : ℚ) / b ≤ 1 / 2 ↔ 2 * (a % b) ≤ b := by
    rw [div_le_div_iff₀ hpos two_pos, one_mul, mul_comm]
    exact_mod_cast Iff.rfl
  have hge : 1 / 2 ≤ ((a % b : Nat) : ℚ) / b ↔ b ≤ 2 * (a % b) := by
    rw [div_le_div_iff₀ two_pos hpos, one_mul, mul_comm]
    exact_mod_cast Iff.rfl
  have hone : ((a % b : Nat) : ℚ) / b ≤ 1 := by
    rw [div_le_one hpos]
    exact_mod_cast hr.le
  have htie (h : ((a % b : Nat) : ℚ) / b = 1 / 2) : 2 * (a % b) = b :=
    le_antisymm (hle.1 h.le) (hge.1 h.ge)
  rw [hquotient, roundDiv]
  split
  · next h =>
    refine .down (by positivity) (hle.2 (by omega)) fun heq => ?_
    have := htie heq
    rw [Int.even_coe_nat, Nat.even_iff]
    omega
  · next h =>
    refine .up hone (hge.2 (by omega)) fun heq => ?_
    have := htie heq
    rw [Int.even_coe_nat, Nat.even_iff]
    omega

theorem leadingExponent_of_le {num den : Nat} (hden : 0 < den) (h : den ≤ num) :
    ∃ c : Nat, leadingExponent num den = c ∧ 10 ^ c * den ≤ num ∧ num < 10 ^ (c + 1) * den := by
  obtain ⟨c, hc⟩ := Nat.exists_eq_add_of_le' (one_le_digitCount (num / den))
  have hlow : 10 ^ (digitCount (num / den) - 1) ≤ num / den :=
    pow_digitCount_le (num / den) (Nat.div_pos h hden)
  have hhigh : num / den < 10 ^ digitCount (num / den) := lt_pow_digitCount (num / den)
  rw [hc] at hlow hhigh
  refine ⟨c, ?_, (Nat.le_div_iff_mul_le hden).1 hlow, (Nat.div_lt_iff_lt_mul hden).1 hhigh⟩
  rw [leadingExponent, if_pos h, hc]
  simp

theorem leadingExponent_of_lt {num den : Nat} (hnum : 0 < num) (h : num < den) :
    ∃ c : Nat, leadingExponent num den = -((c : Int) + 1) ∧ 10 ^ c * num < den ∧
      den ≤ 10 ^ (c + 1) * num := by
  obtain ⟨c, hc⟩ := Nat.exists_eq_add_of_le' (one_le_digitCount ((den - 1) / num))
  have hlow : 10 ^ (digitCount ((den - 1) / num) - 1) ≤ (den - 1) / num :=
    pow_digitCount_le ((den - 1) / num) (Nat.div_pos (by omega) hnum)
  have hhigh : (den - 1) / num < 10 ^ digitCount ((den - 1) / num) :=
    lt_pow_digitCount ((den - 1) / num)
  rw [hc] at hlow hhigh
  have hlow' := (Nat.le_div_iff_mul_le hnum).1 hlow
  have hhigh' := (Nat.div_lt_iff_lt_mul hnum).1 hhigh
  refine ⟨c, ?_, ?_, by omega⟩
  · rw [leadingExponent, if_neg (by omega), hc]
    push_cast
    ring
  · rw [Nat.add_sub_cancel] at hlow'
    omega

/-- The leading digit of a fraction stands where it is said to stand. -/
theorem leadingExponent_bounds {num den : Nat} (hnum : 0 < num) (hden : 0 < den) :
    (10 : ℚ) ^ leadingExponent num den ≤ num / den ∧
      (num : ℚ) / den < 10 ^ (leadingExponent num den + 1) := by
  have hpos : (0 : ℚ) < den := by exact_mod_cast hden
  rw [le_div_iff₀ hpos, div_lt_iff₀ hpos]
  rcases le_or_gt den num with h | h
  · obtain ⟨c, hc, hlow, hhigh⟩ := leadingExponent_of_le hden h
    rw [hc]
    exact ⟨by exact_mod_cast hlow, by exact_mod_cast hhigh⟩
  · obtain ⟨c, hc, hlow, hhigh⟩ := leadingExponent_of_lt hnum h
    have hnext : -((c : ℤ) + 1) + 1 = -c := by ring
    have hcast : ((c : ℤ) + 1) = ((c + 1 : Nat) : ℤ) := by push_cast; rfl
    rw [hc, hnext, hcast, zpow_neg, zpow_neg, zpow_natCast, zpow_natCast,
      inv_mul_le_iff₀ (by positivity), lt_inv_mul_iff₀ (by positivity)]
    exact ⟨by exact_mod_cast hhigh, by exact_mod_cast hlow⟩

namespace Scientific

/-- The number that is meant, where there are `n + 1` digits. -/
def value (n : Nat) (s : Scientific) : ℚ := s.digits * 10 ^ (s.exponent - n)

/-- There are `n + 1` digits, the first of which is not zero. -/
def HasDigits (n : Nat) (s : Scientific) : Prop := 10 ^ n ≤ s.digits ∧ s.digits < 10 ^ (n + 1)

namespace HasDigits
variable {n : Nat} {s t : Scientific}

theorem pow_le_value (h : s.HasDigits n) : 10 ^ s.exponent ≤ s.value n := by
  have hdigits : (10 : ℚ) ^ n ≤ s.digits := by exact_mod_cast h.1
  calc (10 : ℚ) ^ s.exponent = 10 ^ n * 10 ^ (s.exponent - n) := by
        rw [← zpow_natCast, ← zpow_add₀ (by norm_num)]
        congr 1
        ring
    _ ≤ s.value n := by
        rw [value]
        gcongr

theorem value_lt_pow (h : s.HasDigits n) : s.value n < 10 ^ (s.exponent + 1) := by
  have hdigits : (s.digits : ℚ) < 10 ^ (n + 1) := by exact_mod_cast h.2
  calc s.value n < 10 ^ (n + 1) * 10 ^ (s.exponent - n) := by
        rw [value]
        gcongr
    _ = 10 ^ (s.exponent + 1) := by
        rw [← zpow_natCast, ← zpow_add₀ (by norm_num)]
        congr 1
        push_cast
        ring

theorem exponent_le_of_value_le (hs : s.HasDigits n) (ht : t.HasDigits n)
    (h : s.value n ≤ t.value n) : s.exponent ≤ t.exponent := by
  by_contra hlt
  have hpow : (10 : ℚ) ^ (t.exponent + 1) ≤ 10 ^ s.exponent :=
    zpow_le_zpow_right₀ (by norm_num) (by omega)
  linarith [hs.pow_le_value, ht.value_lt_pow]

/-- A number has only one form with so many digits. -/
theorem eq_of_value_eq (hs : s.HasDigits n) (ht : t.HasDigits n) (h : s.value n = t.value n) :
    s = t := by
  have hexponent : s.exponent = t.exponent :=
    le_antisymm (hs.exponent_le_of_value_le ht h.le) (ht.exponent_le_of_value_le hs h.ge)
  have hdigits : (s.digits : ℚ) = t.digits := by
    rw [value, value, hexponent] at h
    exact mul_right_cancel₀ (by positivity) h
  obtain ⟨d, e⟩ := s
  obtain ⟨d', e'⟩ := t
  obtain rfl : d = d' := by exact_mod_cast hdigits
  obtain rfl : e = e' := hexponent
  rfl

/-- Decimals with a leading digit that stands as high are multiples of the same unit. -/
theorem exists_value_eq {e : ℤ} (h : e ≤ t.exponent) :
    ∃ k : ℤ, t.value n = k * 10 ^ (e - n) := by
  refine ⟨t.digits * 10 ^ (t.exponent - e).toNat, ?_⟩
  have hexponent : t.exponent - n = ((t.exponent - e).toNat : ℤ) + (e - n) := by omega
  rw [value, hexponent, zpow_add₀ (by norm_num), zpow_natCast]
  push_cast
  ring

/-- Every decimal is a multiple of the last digit's unit, or else is farther from `v` than the least of
those that have as many digits. -/
theorem multiple_or_farther {e : ℤ} {v : ℚ} (ht : t.HasDigits n) (hv : 10 ^ e ≤ v) :
    (∃ k : ℤ, t.value n = k * 10 ^ (e - n)) ∨
      |v - (10 ^ n : ℤ) * 10 ^ (e - n)| < |v - t.value n| := by
  rcases le_or_gt e t.exponent with h | h
  · exact .inl (exists_value_eq h)
  · have hunit : ((10 ^ n : ℤ) : ℚ) * 10 ^ (e - n) = 10 ^ e := by
      push_cast
      rw [← zpow_natCast, ← zpow_add₀ (by norm_num)]
      congr 1
      ring
    have hpow : (10 : ℚ) ^ (t.exponent + 1) ≤ 10 ^ e := zpow_le_zpow_right₀ (by norm_num) (by omega)
    have hlt := ht.value_lt_pow
    right
    rw [hunit, abs_of_nonneg (by linarith), abs_of_nonneg (by linarith)]
    linarith

end HasDigits

/-- A decimal of `n + 1` digits to which no other one is preferred: none is nearer to `v`, and it is
even if one is as near. -/
structure IsNearest (n : Nat) (v : ℚ) (s : Scientific) : Prop where
  hasDigits : s.HasDigits n
  le : ∀ t : Scientific, t.HasDigits n → |v - s.value n| ≤ |v - t.value n|
  even : ∀ t : Scientific, t.HasDigits n → t ≠ s → |v - s.value n| = |v - t.value n| → Even s.digits

theorem isNearest_of_value {n : Nat} {e d : ℤ} {v : ℚ} {s : Scientific} (hs : s.HasDigits n)
    (hv : 10 ^ e ≤ v) (hd : IsRounded (v / 10 ^ (e - n)) d) (hvalue : s.value n = d * 10 ^ (e - n))
    (heven : Even d → Even s.digits) : s.IsNearest n v := by
  have hpos : (0 : ℚ) < 10 ^ (e - n) := by positivity
  have hscale (k : ℤ) : |v - k * 10 ^ (e - n)| = |v / 10 ^ (e - n) - k| * 10 ^ (e - n) := by
    rw [← abs_of_pos hpos, ← abs_mul, abs_of_pos hpos, sub_mul, div_mul_cancel₀ _ hpos.ne']
  have hgrid (k : ℤ) : |v - s.value n| ≤ |v - k * 10 ^ (e - n)| := by
    rw [hvalue, hscale, hscale]
    exact mul_le_mul_of_nonneg_right (hd.abs_sub_le_abs_sub k) hpos.le
  refine ⟨hs, fun t ht => ?_, fun t ht hne htie => ?_⟩
  · rcases ht.multiple_or_farther hv with ⟨k, hk⟩ | hfar
    · rw [hk]
      exact hgrid k
    · exact (hgrid _).trans hfar.le
  · rcases ht.multiple_or_farther hv with ⟨k, hk⟩ | hfar
    · refine heven (hd.even_of_tie (k := k) ?_ ?_)
      · rintro rfl
        exact hne (ht.eq_of_value_eq hs (hk.trans hvalue.symm))
      · rw [hvalue, hk, hscale, hscale] at htie
        exact mul_right_cancel₀ hpos.ne' htie
    · exact absurd htie ((hgrid _).trans_lt hfar).ne

/-- A whole number of units that is one digit too long becomes a one with zeros. -/
theorem isNearest_carry {n : Nat} (hn : 0 < n) {e : ℤ} {d : Nat} {v : ℚ} (hlow : 10 ^ e ≤ v)
    (hhigh : v < 10 ^ (e + 1)) (hd : IsRounded (v / 10 ^ (e - n)) d) :
    IsNearest n v (if d = 10 ^ (n + 1) then ⟨10 ^ n, e + 1⟩ else ⟨d, e⟩) := by
  have hpos : (0 : ℚ) < 10 ^ (e - n) := by positivity
  have hpow (k : Nat) : ((10 ^ k : Nat) : ℚ) * 10 ^ (e - n) = 10 ^ (e - n + k) := by
    push_cast
    rw [mul_comm, ← zpow_natCast, ← zpow_add₀ (by norm_num)]
  have hdlow : ((10 ^ n : Nat) : ℤ) ≤ d := by
    refine hd.le_of_le ?_
    rw [Int.cast_natCast, le_div_iff₀ hpos, hpow, sub_add_cancel]
    exact hlow
  have hdhigh : (d : ℤ) ≤ (10 ^ (n + 1) : Nat) := by
    refine hd.le_of_ge ?_
    rw [Int.cast_natCast, div_le_iff₀ hpos, hpow]
    convert hhigh.le using 2
    push_cast
    ring
  split
  · next h =>
    refine isNearest_of_value ⟨le_rfl, Nat.pow_lt_pow_right (by norm_num) (Nat.lt_succ_self n)⟩ hlow hd
      ?_ fun _ => ?_
    · have hnext : e + 1 - n = (e - n) + 1 := by ring
      rw [value, h, hnext, zpow_add_one₀ (by norm_num)]
      push_cast
      ring
    · exact Nat.even_pow.2 ⟨by decide, hn.ne'⟩
  · next h =>
    refine isNearest_of_value ⟨by exact_mod_cast hdlow, ?_⟩ hlow hd ?_ fun heven => ?_
    · exact lt_of_le_of_ne (by exact_mod_cast hdhigh) h
    · rw [value, Int.cast_natCast]
    · exact (Int.even_coe_nat d).1 heven

end Scientific

open Scientific

/-- What is computed is the decimal with the given number of digits that is nearest. -/
theorem isNearest_significant {n num den : Nat} (hn : 0 < n) (hnum : 0 < num) (hden : 0 < den) :
    (significant n num den).IsNearest n (num / den) := by
  obtain ⟨hlow, hhigh⟩ := leadingExponent_bounds hnum hden
  unfold significant
  generalize leadingExponent num den = e at *
  refine isNearest_carry hn hlow hhigh ?_
  split
  · next h =>
    obtain ⟨k, hk⟩ := Int.eq_ofNat_of_zero_le (sub_nonneg.2 h.le)
    have hunits : (num : ℚ) / den / 10 ^ (e - n) = num / (den * 10 ^ k : Nat) := by
      rw [hk, div_div, zpow_natCast]
      push_cast
      rfl
    rw [hunits, hk, Int.toNat_natCast]
    exact isRounded_roundDiv num (Nat.mul_pos hden (Nat.pow_pos (by decide)))
  · next h =>
    obtain ⟨k, hk⟩ := Int.eq_ofNat_of_zero_le (sub_nonneg.2 (not_lt.1 h))
    have hunits : (num : ℚ) / den / 10 ^ (e - n) = (num * 10 ^ k : Nat) / den := by
      rw [← neg_sub, hk, zpow_neg, div_inv_eq_mul, zpow_natCast]
      push_cast
      ring
    rw [hunits, hk, Int.toNat_natCast]
    exact isRounded_roundDiv (num * 10 ^ k) hden

namespace Scientific

/-- The next decimal with as many digits. -/
def next (n : Nat) (s : Scientific) : Scientific :=
  if s.digits + 1 = 10 ^ (n + 1) then ⟨10 ^ n, s.exponent + 1⟩ else ⟨s.digits + 1, s.exponent⟩

section
variable {n : Nat} {v : ℚ} {s t : Scientific}

theorem value_next (n : Nat) (s : Scientific) :
    (s.next n).value n = s.value n + 10 ^ (s.exponent - n) := by
  unfold next
  split
  · next h =>
    have hdigits : (s.digits : ℚ) + 1 = 10 ^ (n + 1) := by exact_mod_cast h
    have hnext : s.exponent + 1 - n = (s.exponent - n) + 1 := by ring
    calc ((10 ^ n : Nat) : ℚ) * 10 ^ (s.exponent + 1 - n)
        = 10 ^ (n + 1) * 10 ^ (s.exponent - n) := by
          rw [hnext, zpow_add_one₀ (by norm_num)]
          push_cast
          ring
      _ = s.value n + 10 ^ (s.exponent - n) := by
          rw [← hdigits, value]
          ring
  · rw [value, value]
    push_cast
    ring

theorem HasDigits.next (h : s.HasDigits n) : (s.next n).HasDigits n := by
  unfold Scientific.next
  split
  · exact ⟨le_rfl, Nat.pow_lt_pow_right (by norm_num) (Nat.lt_succ_self n)⟩
  · exact ⟨h.1.trans (Nat.le_succ _), lt_of_le_of_ne h.2 ‹_›⟩

/-- Nothing stands between a decimal and the next. -/
theorem HasDigits.next_le (hs : s.HasDigits n) (ht : t.HasDigits n) (h : s.value n < t.value n) :
    (s.next n).value n ≤ t.value n := by
  have hpos : (0 : ℚ) < 10 ^ (s.exponent - n) := by positivity
  obtain ⟨k, hk⟩ := HasDigits.exists_value_eq (n := n) (hs.exponent_le_of_value_le ht h.le)
  have hdigits : (s.digits : ℤ) + 1 ≤ k := by
    rw [value, hk] at h
    have hlt : (s.digits : ℚ) < k := lt_of_mul_lt_mul_right h hpos.le
    exact_mod_cast hlt
  have hcast : (s.digits : ℚ) + 1 ≤ k := by exact_mod_cast hdigits
  rw [value_next, hk, value]
  linarith [mul_le_mul_of_nonneg_right hcast hpos.le]

theorem not_even_next (n : Nat) (hs : Even s.digits) : ¬ Even (s.next n).digits := by
  unfold next
  split
  · next h =>
    have hodd : ¬ Even (s.digits + 1) := by rwa [Nat.even_add_one, not_not]
    rw [h] at hodd
    exact absurd (Nat.even_pow.2 ⟨by decide, Nat.succ_ne_zero n⟩) hodd
  · exact Nat.even_add_one.not.2 (not_not.2 hs)

namespace IsNearest

private theorem value_le (hs : s.IsNearest n v) (ht : t.IsNearest n v) : t.value n ≤ s.value n := by
  by_contra hlt
  rw [not_le] at hlt
  have hne : t ≠ s := by
    rintro rfl
    exact lt_irrefl _ hlt
  have htie := le_antisymm (hs.le t ht.hasDigits) (ht.le s hs.hasDigits)
  -- The two are even and `v` is halfway between them, so that they are neither neighbours nor apart.
  have hmiddle : v - s.value n = t.value n - v := by
    rcases abs_eq_abs.1 htie with h | h <;> linarith
  have hunit : (0 : ℚ) < 10 ^ (s.exponent - n) := by positivity
  have hnext := value_next n s
  rcases (hs.hasDigits.next_le ht.hasDigits hlt).eq_or_lt with heq | hinside
  · have hodd := not_even_next n (hs.even t ht.hasDigits hne htie)
    rw [hs.hasDigits.next.eq_of_value_eq ht.hasDigits heq] at hodd
    exact hodd (ht.even s hs.hasDigits hne.symm htie.symm)
  · have hcloser : |v - (s.next n).value n| < v - s.value n := by
      rw [abs_lt]
      constructor <;> linarith
    have := hs.le _ hs.hasDigits.next
    rw [abs_of_nonneg (by linarith : 0 ≤ v - s.value n)] at this
    linarith

/-- There is only one nearest decimal. -/
theorem unique (hs : s.IsNearest n v) (ht : t.IsNearest n v) : s = t :=
  hs.hasDigits.eq_of_value_eq ht.hasDigits (le_antisymm (value_le ht hs) (value_le hs ht))

end IsNearest

end

end Scientific

end SqlConsole.Decimal

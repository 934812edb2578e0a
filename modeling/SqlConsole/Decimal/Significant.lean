/-! Positive fractions rounded to a number of significant decimal digits. -/
namespace SqlConsole.Decimal

def digitCount (n : Nat) : Nat := if n < 10 then 1 else digitCount (n / 10) + 1

/-- The exponent `e` of the leading digit: `10 ^ e ≤ num / den < 10 ^ (e + 1)`. -/
def leadingExponent (num den : Nat) : Int :=
  if den ≤ num then (digitCount (num / den) : Int) - 1 else -(digitCount ((den - 1) / num) : Int)

/-- The whole number nearest to `num / den`; halfway between two, the even one. -/
def roundDiv (num den : Nat) : Nat :=
  let q := num / den
  let r := num % den
  if 2 * r < den ∨ (2 * r = den ∧ q % 2 = 0) then q else q + 1

/-- A number in scientific notation: its digits, the first of which counts `10 ^ exponent`. -/
structure Scientific where
  digits : Nat
  exponent : Int
  deriving DecidableEq, Repr

/-- `num / den` rounded to `n + 1` significant digits, halves to the even neighbour. -/
def significant (n num den : Nat) : Scientific :=
  let e := leadingExponent num den
  let d :=
    if (n : Int) < e then roundDiv num (den * Nat.pow 10 (e - n).toNat)
    else roundDiv (num * Nat.pow 10 (n - e).toNat) den
  if d = Nat.pow 10 (n + 1) then ⟨Nat.pow 10 n, e + 1⟩ else ⟨d, e⟩

theorem one_le_digitCount (n : Nat) : 1 ≤ digitCount n := by
  unfold digitCount; split <;> omega

theorem pow_digitCount_le (n : Nat) (h : 0 < n) : Nat.pow 10 (digitCount n - 1) ≤ n := by
  fun_induction digitCount n with
  | case1 n hn => simpa using Nat.one_le_iff_ne_zero.2 (Nat.ne_of_gt h)
  | case2 n hn ih =>
    have := ih (by omega)
    have := one_le_digitCount (n / 10)
    have e : digitCount (n / 10) + 1 - 1 = (digitCount (n / 10) - 1) + 1 := by omega
    rw [e]
    show Nat.pow 10 (digitCount (n / 10) - 1) * 10 ≤ n
    omega

theorem lt_pow_digitCount (n : Nat) : n < Nat.pow 10 (digitCount n) := by
  fun_induction digitCount n with
  | case1 n hn => simpa using hn
  | case2 n hn ih =>
    show n < Nat.pow 10 (digitCount (n / 10)) * 10
    omega

end SqlConsole.Decimal

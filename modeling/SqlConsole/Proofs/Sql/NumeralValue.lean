import Mathlib.Algebra.Order.Field.Rat
import Mathlib.Data.List.TakeWhile
import Mathlib.Tactic.FieldSimp
import Mathlib.Tactic.NormNum
import Mathlib.Tactic.Ring
import SqlConsole.Proofs.Sql.Reading

/-! The numbers that numeric literals mean. -/
namespace SqlConsole.Sql

/-- The number of digits before and behind a point. -/
def decimalValue (whole fraction : List Char) : ℚ :=
  Nat.ofDigitChars 10 (whole ++ fraction) 0 / 10 ^ fraction.length

/-- The number that follows the letter of an exponent. -/
def exponentValue : List Char → ℤ
  | [] => 0
  | _ :: r => wholeNumber r

def unsignedValue (s : List Char) : ℚ :=
  let whole := s.takeWhile Char.isDigit
  match s.dropWhile Char.isDigit with
  | '.' :: r =>
    decimalValue whole (r.takeWhile Char.isDigit) * 10 ^ exponentValue (r.dropWhile Char.isDigit)
  | r => decimalValue whole [] * 10 ^ exponentValue r

/-- The number that a text means, if it is a numeric literal. -/
def numeralValue? (s : List Char) : Option ℚ :=
  if isNumber s then
    some (if s.head? = some '-' then -unsignedValue (dropSign s) else unsignedValue (dropSign s))
  else none

/-- A text with a sign in front of it if it is one of a negative number. -/
def signed (negative : Bool) (s : List Char) : List Char := (if negative then ['-'] else []) ++ s

/-- The digits of a text without the zeros at its end. -/
def trimZeros (digits : List Char) : List Char := (digits.reverse.dropWhile (· == '0')).reverse

theorem exists_trimZeros (digits : List Char) :
    ∃ k, digits = trimZeros digits ++ List.replicate k '0' := by
  refine ⟨(digits.reverse.takeWhile (· == '0')).length, ?_⟩
  have hzeros : ∀ c ∈ digits.reverse.takeWhile (· == '0'), c = '0' := fun c hc => by
    simpa using List.mem_takeWhile_imp hc
  rw [trimZeros, ← List.reverse_replicate, ← List.reverse_append, ← List.eq_replicate_of_mem hzeros,
    List.takeWhile_append_dropWhile, List.reverse_reverse]

theorem decimalValue_append_zeros (whole fraction : List Char) (k : Nat) :
    decimalValue whole (fraction ++ List.replicate k '0') = decimalValue whole fraction := by
  rw [decimalValue, decimalValue, ← List.append_assoc, Nat.ofDigitChars_append,
    Nat.ofDigitChars_replicate_zero, List.length_append, List.length_replicate, pow_add]
  push_cast
  field_simp

theorem decimalValue_trimZeros (whole fraction : List Char) :
    decimalValue whole (trimZeros fraction) = decimalValue whole fraction := by
  obtain ⟨k, hk⟩ := exists_trimZeros fraction
  conv_rhs => rw [hk]
  rw [decimalValue_append_zeros]

theorem fractionText_eq (fraction : List Char) : Real.fractionText fraction =
    if trimZeros fraction = [] then ['0'] else trimZeros fraction := by
  unfold Real.fractionText trimZeros
  split
  · next h => rw [if_pos h]
  · next h => rw [if_neg h]

theorem decimalValue_fractionText (whole fraction : List Char) :
    decimalValue whole (Real.fractionText fraction) = decimalValue whole fraction := by
  rw [← decimalValue_trimZeros whole fraction, fractionText_eq]
  split
  · next h =>
    rw [h]
    exact decimalValue_append_zeros whole [] 1
  · rfl

/-- Where the point is put among digits. -/
theorem decimalValue_split (digits : List Char) {places : Nat} (h : places ≤ digits.length) :
    decimalValue (digits.take (digits.length - places)) (digits.drop (digits.length - places)) =
      Nat.ofDigitChars 10 digits 0 / 10 ^ places := by
  rw [decimalValue, List.take_append_drop, List.length_drop, Nat.sub_sub_self h]

theorem exponentValue_exponentText (e : ℤ) : exponentValue ('e' :: Real.exponentText e) = e := by
  have hvalue : Nat.ofDigitChars 10 (if (Nat.toDigits 10 e.natAbs).length < 2 then
      '0' :: Nat.toDigits 10 e.natAbs else Nat.toDigits 10 e.natAbs) 0 = e.natAbs := by
    split
    · rw [Nat.ofDigitChars_cons]
      simp
    · exact Nat.ofDigitChars_ten_toDigits
  unfold exponentValue Real.exponentText
  dsimp only
  split
  · rw [wholeNumber, hvalue]
    omega
  · rw [wholeNumber, hvalue]
    omega

section Unsigned
variable {w f e : List Char}

theorem span_digits {r : List Char} (hw : Digits w) (hr : ∀ c ∈ r.head?, c.isDigit = false) :
    (w ++ r).takeWhile Char.isDigit = w ∧ (w ++ r).dropWhile Char.isDigit = r := by
  have hnone : r.takeWhile Char.isDigit = [] ∧ r.dropWhile Char.isDigit = r := by
    cases r with
    | nil => exact ⟨rfl, rfl⟩
    | cons c r => simp [hr c rfl]
  rw [List.takeWhile_append_of_pos hw.2, List.dropWhile_append_of_pos hw.2, hnone.1, hnone.2]
  exact ⟨List.append_nil w, rfl⟩

theorem isDigit_of_exponent (he : ∀ c ∈ e.head?, c = 'e') : ∀ c ∈ e.head?, c.isDigit = false := by
  intro c hc
  rw [he c hc]
  decide

theorem unsignedValue_point (hw : Digits w) (hf : Digits f) (he : ∀ c ∈ e.head?, c = 'e') :
    unsignedValue (w ++ '.' :: f ++ e) = decimalValue w f * 10 ^ exponentValue e := by
  obtain ⟨htake, hdrop⟩ := span_digits (r := '.' :: (f ++ e)) hw (by simp)
  obtain ⟨htake', hdrop'⟩ := span_digits hf (isDigit_of_exponent he)
  have hread : unsignedValue (w ++ '.' :: (f ++ e)) =
      decimalValue w ((f ++ e).takeWhile Char.isDigit) *
        10 ^ exponentValue ((f ++ e).dropWhile Char.isDigit) := by
    rw [unsignedValue, htake, hdrop]
    rfl
  rw [List.append_assoc, List.cons_append, hread, htake', hdrop']

theorem unsignedValue_whole (hw : Digits w) (he : ∀ c ∈ e.head?, c = 'e') :
    unsignedValue (w ++ e) = decimalValue w [] * 10 ^ exponentValue e := by
  obtain ⟨htake, hdrop⟩ := span_digits hw (isDigit_of_exponent he)
  rw [unsignedValue, htake, hdrop]
  cases e with
  | nil => rfl
  | cons c e =>
    obtain rfl : c = 'e' := he c rfl
    rfl

theorem isNumber_minus {s : List Char} (hs : dropSign s = s) : isNumber ('-' :: s) = isNumber s := by
  rw [isNumber, isNumber, hs]
  rfl

theorem numeralValue?_signed {s : List Char} (negative : Bool) (hs : dropSign s = s) (hn : isNumber s) :
    numeralValue? (signed negative s) =
      some (if negative then -unsignedValue s else unsignedValue s) := by
  cases negative with
  | false =>
    have hhead : s.head? ≠ some '-' := by
      intro h
      obtain ⟨r, rfl⟩ := List.head?_eq_some_iff.1 h
      have hlength := congrArg List.length hs
      simp [dropSign] at hlength
    simp [signed, numeralValue?, hn, hs, hhead]
  | true => simp [signed, numeralValue?, isNumber_minus hs, hn, dropSign]

end Unsigned

end SqlConsole.Sql

import SqlConsole.Proofs.Decimal.Nearest
import SqlConsole.Proofs.Sql.NumeralValue

/-! The general format `%.15g` of numbers, and what is made of it for finite floating point values: the
same number, which always shows that it is no integer. -/
namespace SqlConsole.Sql
open Decimal (Scientific)

/-- Digits before and behind a point. Zeros at the end of the fraction are left out, and so is the point
if nothing is left behind it. -/
def pointed (whole fraction : List Char) : List Char :=
  if trimZeros fraction = [] then whole else whole ++ '.' :: trimZeros fraction

/-- The digits of a number of units of which so many are to stand behind a point, and one at least in
front of it. -/
def padded (places units : Nat) : List Char := (Nat.toDigits 10 units).leftpad (places + 1) '0'

def wholePart (places units : Nat) : List Char :=
  (padded places units).take ((padded places units).length - places)

def fractionPart (places units : Nat) : List Char :=
  (padded places units).drop ((padded places units).length - places)

/-- The general format of a number that has been rounded to `p` significant digits. Of exponents from
-4 to below `p` the text is positional, with as many digits behind the point as make up `p`. -/
def generalText (p : Nat) (s : Scientific) : List Char :=
  if -4 ≤ s.exponent ∧ s.exponent < p then
    let places := (p - 1 - s.exponent).toNat
    pointed (wholePart places s.digits) (fractionPart places s.digits)
  else
    let digits := Nat.toDigits 10 s.digits
    pointed (digits.take 1) (digits.drop 1) ++ 'e' :: Real.exponentText s.exponent

/-- The decimal is the number, correctly rounded to `p` significant digits. -/
def Rounds (p : Nat) (v : ℚ) (s : Scientific) : Prop :=
  if v = 0 then s = ⟨0, 0⟩ else s.IsNearest (p - 1) v

/-- Puts in a point with a zero behind it where a text has none, in front of its exponent if there is
one. -/
def withPoint (s : List Char) : List Char :=
  let mantissa := s.takeWhile (· != 'e')
  (if '.' ∈ mantissa then mantissa else mantissa ++ ['.', '0']) ++ s.dropWhile (· != 'e')

/-- What digits before and behind a point are, and an exponent if there is one. -/
structure Parts (w f e : List Char) : Prop where
  whole : Digits w
  fraction : ∀ c ∈ f, c.isDigit
  exponent : e = [] ∨ ∃ n, e = 'e' :: Real.exponentText n

namespace Parts
variable {w f e : List Char}

theorem head?_exponent (h : Parts w f e) : ∀ c ∈ e.head?, c = 'e' := by
  rcases h.exponent with rfl | ⟨n, rfl⟩ <;> simp

theorem digits_trimZeros (h : Parts w f e) (hne : trimZeros f ≠ []) : Digits (trimZeros f) := by
  obtain ⟨k, hk⟩ := exists_trimZeros f
  refine ⟨hne, fun c hc => h.fraction c ?_⟩
  rw [hk]
  exact List.mem_append_left _ hc

theorem unsignedValue_pointed (h : Parts w f e) :
    unsignedValue (pointed w f ++ e) = decimalValue w f * 10 ^ exponentValue e := by
  rw [← decimalValue_trimZeros w f, pointed]
  split
  · next hnil => rw [hnil, unsignedValue_whole h.whole h.head?_exponent]
  · next hne => rw [unsignedValue_point h.whole (h.digits_trimZeros hne) h.head?_exponent]

theorem unsignedValue_fractionText (h : Parts w f e) :
    unsignedValue (w ++ '.' :: Real.fractionText f ++ e) = decimalValue w f * 10 ^ exponentValue e := by
  rw [unsignedValue_point h.whole (digits_fractionText h.fraction) h.head?_exponent,
    decimalValue_fractionText]

theorem not_exponent_of_mem_pointed (h : Parts w f e) : ∀ c ∈ pointed w f, c != 'e' := by
  have hdigit {c : Char} (hc : c.isDigit) : c != 'e' := bne_iff_ne.2 (by rintro rfl; cases hc)
  unfold pointed
  split
  · exact fun c hc => hdigit (h.whole.2 c hc)
  · next hne =>
    rw [List.forall_mem_append, List.forall_mem_cons]
    exact ⟨fun c hc => hdigit (h.whole.2 c hc), by decide,
      fun c hc => hdigit ((h.digits_trimZeros hne).2 c hc)⟩

theorem isDecimal_fractionText (h : Parts w f e) :
    IsDecimal (w ++ '.' :: Real.fractionText f ++ e) := by
  have hfraction := digits_fractionText h.fraction
  rcases h.exponent with rfl | ⟨n, rfl⟩
  · rw [List.append_nil]
    exact .plain h.whole hfraction
  · obtain ⟨c, d, hn, hc, hd⟩ := exponentText_eq n
    rw [hn]
    exact .scaled h.whole hfraction hc hd

/-- A point is put in only where none is. -/
theorem withPoint_pointed (h : Parts w f e) :
    withPoint (pointed w f ++ e) = w ++ '.' :: Real.fractionText f ++ e := by
  have hexponent : e.takeWhile (· != 'e') = [] ∧ e.dropWhile (· != 'e') = e := by
    rcases h.exponent with rfl | ⟨n, rfl⟩ <;> simp
  rw [withPoint, List.takeWhile_append_of_pos h.not_exponent_of_mem_pointed,
    List.dropWhile_append_of_pos h.not_exponent_of_mem_pointed, hexponent.1, hexponent.2,
    List.append_nil, pointed, fractionText_eq]
  split
  · have hnone : '.' ∉ w := fun hmem => absurd (h.whole.2 '.' hmem) (by decide)
    simp [hnone]
  · simp

theorem isNumber_pointed (h : Parts w f e) :
    dropSign (pointed w f ++ e) = pointed w f ++ e ∧ isNumber (pointed w f ++ e) := by
  have hexponent : isExponent e := by
    rcases h.exponent with rfl | ⟨n, rfl⟩
    · rfl
    · obtain ⟨c, d, hn, hc, hd⟩ := exponentText_eq n
      rw [hn]
      exact isExponent_eq hc hd
  have hnext := isDigit_of_exponent h.head?_exponent
  unfold pointed
  split
  · have hsign := h.whole.dropSign_eq e
    refine ⟨hsign, ?_⟩
    rw [isNumber, hsign, h.whole.digits?_eq hnext]
    rcases h.exponent with rfl | ⟨n, rfl⟩
    · rfl
    · exact hexponent
  · next hne =>
    rw [List.append_assoc, List.cons_append]
    have hsign := h.whole.dropSign_eq ('.' :: (trimZeros f ++ e))
    refine ⟨hsign, ?_⟩
    rw [isNumber, hsign, h.whole.digits?_eq (by simp)]
    show (digits? (trimZeros f ++ e)).any isExponent
    rw [(h.digits_trimZeros hne).digits?_eq hnext]
    exact hexponent

end Parts

section Padded
variable (places units : Nat)

theorem digits_padded : Digits (padded places units) := by
  have hdigits := digits_toDigits units
  refine ⟨by simp [padded, List.leftpad, hdigits.1], fun c hc => ?_⟩
  rcases List.mem_append.1 hc with hc | hc
  · rw [List.eq_of_mem_replicate hc]
    decide
  · exact hdigits.2 c hc

theorem length_padded :
    (padded places units).length = max (places + 1) (Nat.toDigits 10 units).length := by
  rw [padded, List.leftpad, List.length_append, List.length_replicate]
  omega

theorem ofDigitChars_padded : Nat.ofDigitChars 10 (padded places units) 0 = units := by
  rw [padded, List.leftpad, Nat.ofDigitChars_append, Nat.ofDigitChars_replicate_zero, Nat.mul_zero,
    Nat.ofDigitChars_ten_toDigits]

theorem parts_padded : Parts (wholePart places units) (fractionPart places units) [] := by
  have hlength := length_padded places units
  have hdigits := digits_padded places units
  obtain ⟨k, hk⟩ : ∃ k, (padded places units).length - places = k + 1 :=
    Nat.exists_eq_add_of_le' (by omega)
  refine ⟨?_, fun c hc => hdigits.2 c (List.mem_of_mem_drop hc), .inl rfl⟩
  rw [wholePart, hk]
  exact hdigits.take k

theorem decimalValue_padded :
    decimalValue (wholePart places units) (fractionPart places units) = units / 10 ^ places := by
  have hlength := length_padded places units
  rw [wholePart, fractionPart, decimalValue_split _ (by omega), ofDigitChars_padded]

end Padded

section Layout
variable {s : Scientific}

theorem length_toDigits {n : Nat} (hn : 0 < n) (hs : s.HasDigits n) :
    (Nat.toDigits 10 s.digits).length = n + 1 := by
  have hle := (Nat.length_toDigits_le_iff (b := 10) (by decide) (Nat.succ_pos n)).2 hs.2
  have hlt := (Nat.length_toDigits_le_iff (b := 10) (n := s.digits) (by decide) hn).not.2
    (not_lt.2 hs.1)
  omega

/-- The positional text, whether the point comes behind some digit or zeros come first. -/
theorem scientificText_positional (hs : s.HasDigits 14) (hlow : -4 ≤ s.exponent)
    (hhigh : s.exponent < 15) :
    Real.scientificText s = wholePart (14 - s.exponent).toNat s.digits ++
      '.' :: Real.fractionText (fractionPart (14 - s.exponent).toNat s.digits) := by
  have hlength := length_toDigits (by decide) hs
  have hpadded := length_padded (14 - s.exponent).toNat s.digits
  unfold Real.scientificText
  dsimp only
  -- With an exponent that is not negative no zeros are put in, since there are digits enough for one
  -- in front of the point.
  split
  · next h =>
    have hall : padded (14 - s.exponent).toNat s.digits = Nat.toDigits 10 s.digits := by
      have hzero : (14 - s.exponent).toNat + 1 - (Nat.toDigits 10 s.digits).length = 0 := by omega
      rw [padded, List.leftpad, hzero]
      rfl
    have hcut : (Nat.toDigits 10 s.digits).length - (14 - s.exponent).toNat =
        s.exponent.toNat + 1 := by omega
    rw [wholePart, fractionPart, hall, hcut]
  · next h =>
    obtain ⟨x, hx⟩ : ∃ x : Nat, s.exponent = -((x : ℤ) + 1) :=
      ⟨(-s.exponent - 1).toNat, by change ¬ (_ ∧ s.exponent < (15 : ℤ)) at h; omega⟩
    -- The first of the zeros is the one in front of the point.
    have hzeros : padded (14 - s.exponent).toNat s.digits =
        '0' :: (List.replicate x '0' ++ Nat.toDigits 10 s.digits) := by
      have hcount : (14 - s.exponent).toNat + 1 - (Nat.toDigits 10 s.digits).length = x + 1 := by
        omega
      rw [padded, List.leftpad, hcount, List.replicate_succ, List.cons_append]
    have hcut : (padded (14 - s.exponent).toNat s.digits).length - (14 - s.exponent).toNat = 1 := by
      omega
    have habs : s.exponent.natAbs - 1 = x := by omega
    rw [if_pos (by omega), habs, wholePart, fractionPart, hcut, hzeros]
    rfl

/-- The text with an exponent. -/
theorem scientificText_exponent (h : ¬ (-4 ≤ s.exponent ∧ s.exponent < 15)) :
    Real.scientificText s = (Nat.toDigits 10 s.digits).take 1 ++
      '.' :: Real.fractionText ((Nat.toDigits 10 s.digits).drop 1) ++
        'e' :: Real.exponentText s.exponent := by
  have hnonneg : ¬ (0 ≤ s.exponent ∧ s.exponent < Real.precision) := by
    change ¬ (_ ∧ s.exponent < (15 : ℤ))
    omega
  rw [Real.scientificText, if_neg hnonneg, if_neg (by omega)]

/-- What the general format of a decimal and the text of it are made of. -/
theorem exists_parts (hs : s.HasDigits 14) :
    ∃ w f e, Parts w f e ∧ generalText Real.precision s = pointed w f ++ e ∧
      Real.scientificText s = w ++ '.' :: Real.fractionText f ++ e ∧
      decimalValue w f * 10 ^ exponentValue e = s.value 14 := by
  by_cases hpositional : -4 ≤ s.exponent ∧ s.exponent < (Real.precision : ℤ)
  · have h : -4 ≤ s.exponent ∧ s.exponent < 15 := hpositional
    refine ⟨_, _, [], parts_padded (14 - s.exponent).toNat s.digits, ?_, ?_, ?_⟩
    · rw [List.append_nil, generalText, if_pos hpositional]
      rfl
    · rw [List.append_nil, scientificText_positional hs h.1 h.2]
    · obtain ⟨k, hk⟩ := Int.eq_ofNat_of_zero_le (by omega : 0 ≤ 14 - s.exponent)
      have hexponent : s.exponent - (14 : ℕ) = -(k : ℤ) := by push_cast; omega
      rw [decimalValue_padded, hk, Int.toNat_natCast, exponentValue, zpow_zero, mul_one,
        Scientific.value, hexponent, zpow_neg, zpow_natCast, div_eq_mul_inv]
  · have hlength := length_toDigits (by decide) hs
    have hdigits := digits_toDigits s.digits
    have hparts : Parts ((Nat.toDigits 10 s.digits).take 1) ((Nat.toDigits 10 s.digits).drop 1)
        ('e' :: Real.exponentText s.exponent) :=
      ⟨hdigits.take 0, fun c hc => hdigits.2 c (List.mem_of_mem_drop hc), .inr ⟨_, rfl⟩⟩
    refine ⟨_, _, _, hparts, ?_, scientificText_exponent hpositional, ?_⟩
    · rw [generalText, if_neg hpositional]
    · have hsplit := decimalValue_split (Nat.toDigits 10 s.digits) (by omega : 14 ≤ _)
      rw [hlength, Nat.ofDigitChars_ten_toDigits] at hsplit
      rw [hsplit, exponentValue_exponentText, Scientific.value, zpow_sub₀ (by norm_num), zpow_natCast]
      ring

end Layout

theorem rounds_iff {num den : Nat} (hden : 0 < den) (s : Scientific) :
    Rounds Real.precision (num / den) s ↔
      s = if num = 0 then ⟨0, 0⟩ else Decimal.significant (Real.precision - 1) num den := by
  have hzero : (num / den : ℚ) = 0 ↔ num = 0 := by
    rw [div_eq_zero_iff, Nat.cast_eq_zero, Nat.cast_eq_zero]
    omega
  unfold Rounds
  by_cases h : num = 0
  · rw [if_pos (hzero.2 h), if_pos h]
  · have hnearest :=
      Decimal.isNearest_significant (n := Real.precision - 1) (by decide) (Nat.pos_of_ne_zero h) hden
    rw [if_neg (hzero.not.2 h), if_neg h]
    refine ⟨fun hs => hs.unique hnearest, ?_⟩
    rintro rfl
    exact hnearest

/-- A text of a finite number, and the general format of what it is rounded to. -/
theorem exists_finiteText_parts {num den : Nat} {s : Scientific} (hden : 0 < den)
    (hs : Rounds Real.precision (num / den) s) :
    ∃ w f e, Parts w f e ∧ generalText Real.precision s = pointed w f ++ e ∧
      Real.finiteText num den = w ++ '.' :: Real.fractionText f ++ e ∧
      decimalValue w f * 10 ^ exponentValue e = s.value 14 := by
  have heq := (rounds_iff hden s).1 hs
  rw [Real.finiteText]
  by_cases h : num = 0
  · rw [if_pos h] at heq ⊢
    subst heq
    refine ⟨_, _, [], parts_padded 14 0, by decide, by decide, ?_⟩
    rw [decimalValue_padded, Scientific.value]
    simp
  · rw [if_neg h] at heq ⊢
    subst heq
    exact exists_parts (Decimal.isNearest_significant (by decide) (Nat.pos_of_ne_zero h) hden).hasDigits

theorem den_pos {x : Real} {num den : Nat} (hx : x.magnitude = .finite num den) : 0 < den := by
  have hscaled (m e : Nat) (h : (if 1075 ≤ e then Magnitude.finite (m <<< (e - 1075)) 1
      else .finite m (1 <<< (1075 - e))) = .finite num den) : 0 < den := by
    split at h
    · rw [← (Magnitude.finite.inj h).2]
      exact Nat.one_pos
    · rw [← (Magnitude.finite.inj h).2, Nat.one_shiftLeft]
      exact Nat.two_pow_pos _
  rw [Real.magnitude] at hx
  split at hx
  · split at hx <;> exact absurd hx nofun
  · exact hscaled _ _ hx

theorem withPoint_signed (negative : Bool) (s : List Char) :
    withPoint (signed negative s) = signed negative (withPoint s) := by
  cases negative with
  | false => rfl
  | true =>
    have hmem (t : List Char) : '.' ∈ '-' :: t ↔ '.' ∈ t := by simp
    show withPoint ('-' :: s) = '-' :: withPoint s
    rw [withPoint, withPoint, List.takeWhile_cons_of_pos (by decide),
      List.dropWhile_cons_of_pos (by decide)]
    simp only [hmem]
    split <;> rfl

/-- The text of a finite value is that of a decimal and of no integer. It means the same number as the
general format of the value, correctly rounded, and it is a literal that needs no quotes. -/
theorem finite_text_decimal {x : Real} {num den : Nat} (hx : x.magnitude = .finite num den) :
    ∃ s : Scientific, (∀ s', Rounds Real.precision (num / den) s' ↔ s' = s) ∧
      x.text = withPoint (signed x.negative (generalText Real.precision s)) ∧
      numeralValue? (signed x.negative (generalText Real.precision s)) = numeralValue? x.text ∧
      numeralValue? x.text = some (if x.negative then -s.value 14 else s.value 14) ∧
      (∃ u, IsDecimal u ∧ x.text = signed x.negative u) ∧
      isNumber x.text ∧ (Value.real x).literal = x.text ∧ (Value.real x).untypedLiteral = x.text ∧
      ∀ n, x.text ≠ integerText n := by
  have hden := den_pos hx
  refine ⟨_, rounds_iff hden, ?_⟩
  generalize hs : (if num = 0 then ⟨0, 0⟩ else Decimal.significant (Real.precision - 1) num den) = s
  obtain ⟨w, f, e, hparts, hgeneral, hfinite, hvalue⟩ :=
    exists_finiteText_parts hden ((rounds_iff hden s).2 hs.symm)
  have htext : x.text = signed x.negative (w ++ '.' :: Real.fractionText f ++ e) := by
    rw [Real.text, hx, ← hfinite]
    rfl
  obtain ⟨hnumeral, hpoint⟩ := isNumeral_text hx
  have hdecimal := hparts.isDecimal_fractionText
  have hunsigned := isNumber_unsigned (.inr hdecimal)
  have hgeneralNumber := hparts.isNumber_pointed
  have hread : numeralValue? x.text = some (if x.negative then -s.value 14 else s.value 14) := by
    rw [htext, numeralValue?_signed _ hunsigned.1 hunsigned.2, hparts.unsignedValue_fractionText, hvalue]
  refine ⟨?_, ?_, hread, ⟨_, hdecimal, htext⟩, hnumeral.isNumber, rfl, ?_, ?_⟩
  · rw [withPoint_signed, hgeneral, hparts.withPoint_pointed, htext]
  · rw [hread, hgeneral, numeralValue?_signed _ hgeneralNumber.1 hgeneralNumber.2,
      hparts.unsignedValue_pointed, hvalue]
  · show (if isNumber x.text then x.text else _) = x.text
    rw [if_pos hnumeral.isNumber]
  · exact fun n h => not_mem_integerText_of (by decide) (by decide) n (h ▸ hpoint)

/-- A value without a fraction and with an exponent. -/
theorem finite_text_decimal_large :
    let x : Real := ⟨0xc341c37937e08000⟩
    x.magnitude = .finite 10000000000000000 1 ∧ x.text = "-1.0e+16".toList ∧
      Rounds Real.precision 10000000000000000 ⟨100000000000000, 16⟩ ∧
      signed x.negative (generalText Real.precision ⟨100000000000000, 16⟩) = "-1e+16".toList ∧
      numeralValue? "-1e+16".toList = some (-10000000000000000) ∧
      numeralValue? x.text = some (-10000000000000000) ∧ (Value.real x).untypedLiteral = x.text ∧
      ∀ n, x.text ≠ integerText n := by
  intro x
  have hx : x.magnitude = .finite 10000000000000000 1 := by decide
  obtain ⟨s, hrounds, -, hsame, hvalue, -, -, -, huntyped, hinteger⟩ := finite_text_decimal hx
  have hs : ⟨100000000000000, 16⟩ = s :=
    (hrounds _).1 ((rounds_iff Nat.one_pos _).2 (by decide +kernel))
  subst hs
  have hgeneral : signed x.negative (generalText Real.precision ⟨100000000000000, 16⟩) =
      "-1e+16".toList := by decide
  have hnumber : numeralValue? x.text = some (-10000000000000000) := by
    have hnegative : x.negative = true := by decide
    rw [hvalue, hnegative, if_pos rfl, Scientific.value]
    norm_num
  refine ⟨hx, by decide +kernel, ?_, hgeneral, ?_, hnumber, huntyped, hinteger⟩
  · simpa using (hrounds _).2 rfl
  · rw [← hnumber, ← hsame, hgeneral]

end SqlConsole.Sql

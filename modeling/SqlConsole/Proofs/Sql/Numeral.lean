import SqlConsole.Proofs.Statement.Inert
import SqlConsole.Sql.Literal

/-! The texts of numbers: what they are made of, and that they are numeric literals. -/
namespace SqlConsole.Sql
open Statement (Inert isWordChar)

def Digits (s : List Char) : Prop := s ≠ [] ∧ ∀ c ∈ s, c.isDigit

/-- Digits around a point, and an exponent perhaps. -/
inductive IsDecimal : List Char → Prop where
  | plain {w f : List Char} (hw : Digits w) (hf : Digits f) : IsDecimal (w ++ '.' :: f)
  | scaled {w f d : List Char} {c : Char} (hw : Digits w) (hf : Digits f)
      (hc : c = '+' ∨ c = '-') (hd : Digits d) : IsDecimal (w ++ '.' :: f ++ 'e' :: c :: d)

/-- A whole number or a decimal, which may be negative. -/
inductive IsNumeral : List Char → Prop where
  | whole {s : List Char} (h : Digits s) : IsNumeral s
  | decimal {s : List Char} (h : IsDecimal s) : IsNumeral s
  | negative {s : List Char} (h : Digits s ∨ IsDecimal s) : IsNumeral ('-' :: s)

theorem digits_toDigits (n : Nat) : Digits (Nat.toDigits 10 n) :=
  ⟨Nat.toDigits_ne_nil, fun _ hc => Nat.isDigit_of_mem_toDigits (by decide) (by decide) hc⟩

theorem isNumeral_integerText (n : Int) : IsNumeral (integerText n) := by
  cases n with
  | ofNat n => exact .whole (digits_toDigits n)
  | negSucc n => exact .negative (.inl (digits_toDigits (n + 1)))

theorem not_mem_integerText_of {c : Char} (hdigit : c.isDigit = false) (hminus : c ≠ '-') (n : Int) :
    c ∉ integerText n := by
  have hdigits (m : Nat) : c ∉ Nat.toDigits 10 m := fun h => by
    rw [(digits_toDigits m).2 c h] at hdigit
    cases hdigit
  cases n with
  | ofNat n => exact hdigits n
  | negSucc n => simpa [integerText, hminus] using hdigits (n + 1)

namespace Digits
variable {s t r : List Char}

theorem cons {c : Char} (hc : c.isDigit) (ht : ∀ d ∈ t, d.isDigit) : Digits (c :: t) :=
  ⟨List.cons_ne_nil c t, List.forall_mem_cons.2 ⟨hc, ht⟩⟩

theorem take (hs : Digits s) (n : Nat) : Digits (s.take (n + 1)) := by
  refine ⟨fun h => ?_, fun c hc => hs.2 c (List.mem_of_mem_take hc)⟩
  rcases List.take_eq_nil_iff.1 h with h | h
  · cases h
  · exact hs.1 h

end Digits

/-- Whatever is dropped from the end, some digit is left. -/
theorem digits_fractionText {s : List Char} (h : ∀ c ∈ s, c.isDigit) :
    Digits (Real.fractionText s) := by
  have hmem (c : Char) (hc : c ∈ (s.reverse.dropWhile (· == '0')).reverse) : c.isDigit :=
    h c (List.mem_reverse.1 ((List.dropWhile_sublist _).subset (List.mem_reverse.1 hc)))
  unfold Real.fractionText
  split
  · exact .cons (by decide) (by simp)
  · next hne =>
    exact ⟨hne, hmem⟩

theorem exponentText_eq (e : Int) : ∃ sign digits, Real.exponentText e = sign :: digits ∧
    (sign = '+' ∨ sign = '-') ∧ Digits digits := by
  refine ⟨_, _, rfl, ?_, ?_⟩
  · split
    · exact .inr rfl
    · exact .inl rfl
  · split
    · exact .cons (by decide) (digits_toDigits _).2
    · exact digits_toDigits _

theorem isDecimal_scientificText (s : Decimal.Scientific) : IsDecimal (Real.scientificText s) := by
  have hdigits := digits_toDigits s.digits
  have hdrop (n : Nat) : ∀ c ∈ (Nat.toDigits 10 s.digits).drop n, c.isDigit :=
    fun c hc => hdigits.2 c (List.mem_of_mem_drop hc)
  unfold Real.scientificText
  dsimp only
  split
  · exact .plain (hdigits.take _) (digits_fractionText (hdrop _))
  split
  · refine .plain (w := ['0']) (.cons (by decide) (by simp)) (digits_fractionText ?_)
    intro c hc
    rcases List.mem_append.1 hc with hc | hc
    · rw [List.eq_of_mem_replicate hc]
      decide
    · exact hdigits.2 c hc
  · obtain ⟨sign, digits, hexponent, hsign, hds⟩ := exponentText_eq s.exponent
    rw [hexponent]
    exact .scaled (hdigits.take 0) (digits_fractionText (hdrop 1)) hsign hds

/-- The text of a finite number is a decimal, which may be negative. -/
theorem exists_text_eq {x : Real} {num den : Nat} (h : x.magnitude = .finite num den) :
    ∃ t, IsDecimal t ∧ (x.text = t ∨ x.text = '-' :: t) := by
  have hdecimal : IsDecimal (Real.finiteText num den) := by
    unfold Real.finiteText
    split
    · exact .plain (w := ['0']) (f := ['0']) (.cons (by decide) (by simp))
        (.cons (by decide) (by simp))
    · exact isDecimal_scientificText _
  refine ⟨_, hdecimal, ?_⟩
  unfold Real.text
  rw [h]
  cases x.negative
  · exact .inl rfl
  · exact .inr rfl

namespace Digits
variable {s r : List Char}

theorem digits?_eq (hs : Digits s) (hr : ∀ c ∈ r.head?, c.isDigit = false) :
    digits? (s ++ r) = some r := by
  obtain ⟨c, m, rfl⟩ := List.exists_cons_of_ne_nil hs.1
  obtain ⟨hc, hm⟩ := List.forall_mem_cons.1 hs.2
  have hend : r.dropWhile Char.isDigit = r := by
    cases r with
    | nil => rfl
    | cons d r => simp [hr d rfl]
  simp [digits?, hc, List.dropWhile_append_of_pos hm, hend]

theorem dropSign_eq (hs : Digits s) (r : List Char) : dropSign (s ++ r) = s ++ r := by
  obtain ⟨c, m, rfl⟩ := List.exists_cons_of_ne_nil hs.1
  have hc := hs.2 c List.mem_cons_self
  unfold dropSign
  split
  · next h =>
    obtain rfl := (List.cons.inj h).1
    exact absurd hc (by decide)
  · next h =>
    obtain rfl := (List.cons.inj h).1
    exact absurd hc (by decide)
  · rfl

end Digits

theorem isExponent_eq {d : List Char} {c : Char} (hc : c = '+' ∨ c = '-') (hd : Digits d) :
    isExponent ('e' :: c :: d) := by
  have hdigits : digits? d = some [] := by simpa using hd.digits?_eq (r := []) (by simp)
  rcases hc with rfl | rfl <;> simp [isExponent, dropSign, hdigits]

theorem exists_digit {s : List Char} (h : Digits s ∨ IsDecimal s) :
    ∃ c m, s = c :: m ∧ c.isDigit := by
  have hdigits {t : List Char} (ht : Digits t) (r : List Char) :
      ∃ c m, t ++ r = c :: m ∧ c.isDigit := by
    obtain ⟨c, m, rfl⟩ := List.exists_cons_of_ne_nil ht.1
    exact ⟨c, m ++ r, rfl, ht.2 c List.mem_cons_self⟩
  rcases h with h | h
  · simpa using hdigits h []
  · cases h with
    | plain hw => exact hdigits hw _
    | scaled hw =>
      rw [List.append_assoc]
      exact hdigits hw _

/-- A number without a sign. -/
theorem isNumber_unsigned {s : List Char} (h : Digits s ∨ IsDecimal s) :
    dropSign s = s ∧ isNumber s := by
  rcases h with hs | hs
  · have hsign : dropSign s = s := by simpa using hs.dropSign_eq []
    have hdigits : digits? s = some [] := by simpa using hs.digits?_eq (r := []) (by simp)
    exact ⟨hsign, by simp [isNumber, hsign, hdigits, isExponent]⟩
  · cases hs with
    | @plain w f hw hf =>
      have hsign := hw.dropSign_eq ('.' :: f)
      have hwhole := hw.digits?_eq (r := '.' :: f) (by simp)
      have hfraction := hf.digits?_eq (r := []) (by simp)
      rw [List.append_nil] at hfraction
      exact ⟨hsign, by simp [isNumber, hsign, hwhole, hfraction, isExponent]⟩
    | @scaled w f d c hw hf hc hd =>
      rw [List.append_assoc]
      have hsign := hw.dropSign_eq ('.' :: f ++ 'e' :: c :: d)
      have hwhole := hw.digits?_eq (r := '.' :: f ++ 'e' :: c :: d) (by simp)
      have hfraction := hf.digits?_eq (r := 'e' :: c :: d) (by simp)
      refine ⟨hsign, ?_⟩
      rw [isNumber, hsign, hwhole]
      simp [hfraction, isExponent_eq hc hd]

theorem IsNumeral.isNumber {s : List Char} (h : IsNumeral s) : isNumber s := by
  cases h with
  | whole h => exact (isNumber_unsigned (.inl h)).2
  | decimal h => exact (isNumber_unsigned (.inr h)).2
  | @negative s h =>
    obtain ⟨hsign, hnumber⟩ := isNumber_unsigned h
    rw [Sql.isNumber, hsign] at hnumber
    rw [Sql.isNumber]
    exact hnumber

theorem IsDecimal.mem_point {s : List Char} (h : IsDecimal s) : '.' ∈ s := by
  cases h <;> simp

/-- A character of a literal without quotes. -/
def isBare (c : Char) : Bool := c.isAlphanum || c == '.' || c == '+' || c == '-'

theorem IsNumeral.isBare {s : List Char} (h : IsNumeral s) : ∀ c ∈ s, isBare c := by
  have hdigits {t : List Char} (ht : Digits t) : ∀ c ∈ t, Sql.isBare c := fun c hc => by
    simp [Sql.isBare, Char.isAlphanum, ht.2 c hc]
  have hdecimal {t : List Char} (ht : IsDecimal t) : ∀ c ∈ t, Sql.isBare c := by
    cases ht with
    | plain hw hf =>
      simp only [List.forall_mem_append, List.forall_mem_cons]
      exact ⟨hdigits hw, by decide, hdigits hf⟩
    | scaled hw hf hc hd =>
      simp only [List.forall_mem_append, List.forall_mem_cons]
      refine ⟨⟨hdigits hw, by decide, hdigits hf⟩, by decide, ?_, hdigits hd⟩
      rcases hc with rfl | rfl <;> decide
  cases h with
  | whole h => exact hdigits h
  | decimal h => exact hdecimal h
  | negative h =>
    exact List.forall_mem_cons.2 ⟨by decide, h.elim hdigits hdecimal⟩

theorem isWordChar_of_isDigit {c : Char} (h : c.isDigit) : isWordChar c := by
  simp [isWordChar, Char.isAlphanum, h]

/-- A number is read as whole tokens where no word goes on behind it. -/
theorem IsNumeral.inert {s rest : List Char} (h : IsNumeral s)
    (hrest : ∀ c ∈ rest.head?, isWordChar c = false) : Inert s rest := by
  have hword {t r : List Char} (ht : Digits t) (hr : ∀ c ∈ r.head?, isWordChar c = false) :
      Inert t r := .word ht.1 (fun c hc => isWordChar_of_isDigit (ht.2 c hc)) hr
  have hpoint (r : List Char) : ∀ c ∈ ('.' :: r).head?, isWordChar c = false := by
    simp [isWordChar]
  have hminus {t : List Char} (ht : Digits t ∨ IsDecimal t) (r : List Char) :
      Inert ['-'] (t ++ r) := by
    obtain ⟨x, m, rfl, hx⟩ := exists_digit ht
    refine .minus fun hhead => ?_
    obtain rfl : x = '-' := Option.some.inj hhead
    exact absurd hx (by decide)
  have hdecimal {t : List Char} (ht : IsDecimal t) : Inert t rest := by
    cases ht with
    | plain hw hf =>
      exact (hword hw (hpoint _)).append ((Inert.mark (by decide) _).append (hword hf hrest))
    | @scaled w f d c hw hf hc hd =>
      -- the letter of the exponent belongs to the word that the fraction is
      have hmantissa : ∀ x ∈ f ++ ['e'], isWordChar x := by
        simp only [List.forall_mem_append, List.forall_mem_singleton]
        exact ⟨fun x hx => isWordChar_of_isDigit (hf.2 x hx), by decide⟩
      have hsign : Inert [c] (d ++ rest) := by
        rcases hc with rfl | rfl
        · exact .mark (by decide) _
        · exact hminus (.inl hd) rest
      have hscaled : Inert (f ++ ['e']) ([c] ++ d ++ rest) := by
        refine .word (by simp) hmantissa ?_
        rcases hc with rfl | rfl <;> simp [isWordChar]
      have htext : w ++ '.' :: f ++ 'e' :: c :: d = w ++ (['.'] ++ ((f ++ ['e']) ++ ([c] ++ d))) := by
        simp
      rw [htext]
      exact (hword hw (hpoint _)).append ((Inert.mark (by decide) _).append
        (hscaled.append (hsign.append (hword hd hrest))))
  have hunsigned {t : List Char} (ht : Digits t ∨ IsDecimal t) : Inert t rest :=
    ht.elim (hword · hrest) hdecimal
  cases h with
  | whole h => exact hword h hrest
  | decimal h => exact hdecimal h
  | negative h => exact (hminus h rest).append (hunsigned h)

end SqlConsole.Sql

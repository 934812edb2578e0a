import Mathlib.Tactic.SplitIfs
import SqlConsole.Proofs.Text.Utf8
import SqlConsole.Text.Escape

/-! C strings read back: what escapes are resolved to, and where the text between the quotes ends. -/
namespace SqlConsole.Text

section Unescape
variable {c : Char}

@[simp] theorem unescape_nil : unescape [] = [] := rfl

theorem unescape_cons (hc : c ≠ '\\') (r : List Char) : unescape (c :: r) = c :: unescape r := by
  simp [unescape, unescapeFrom, hc]

theorem unescape_append {s : List Char} (hs : '\\' ∉ s) (r : List Char) :
    unescape (s ++ r) = s ++ unescape r := by
  induction s with
  | nil => rfl
  | cons c s ih =>
    rw [List.cons_append, unescape_cons (List.ne_of_not_mem_cons hs).symm,
      ih (List.not_mem_of_not_mem_cons hs), List.cons_append]

theorem unescape_of_not_mem {s : List Char} (hs : '\\' ∉ s) : unescape s = s := by
  simpa using unescape_append hs []

theorem unescape_escaped (hc : octalValue? c = none) (r : List Char) :
    unescape ('\\' :: c :: r) = escaped c :: unescape r := by
  simp [unescape, unescapeFrom, hc]

/-- Three digits are as many as an escape takes. -/
theorem unescape_octal {d₁ d₂ d₃ : Char} {n₁ n₂ n₃ : Nat} (h₁ : octalValue? d₁ = some n₁)
    (h₂ : octalValue? d₂ = some n₂) (h₃ : octalValue? d₃ = some n₃) (r : List Char) :
    unescape ('\\' :: d₁ :: d₂ :: d₃ :: r) =
      Char.ofNat (8 * (8 * n₁ + n₂) + n₃) :: unescape r := by
  simp [unescape, unescapeFrom, h₁, h₂, h₃]

end Unescape

section OctalDigit
variable (n : Nat)

private theorem octalDigit_below {p : Char → Prop}
    (h : ∀ k < 8, p (Char.ofNat (48 + k))) : p (octalDigit n) :=
  h _ (Nat.mod_lt n (by decide))

theorem octalValue?_octalDigit : octalValue? (octalDigit n) = some (n % 8) := by
  have hdigit : ∀ k < 8, octalValue? (Char.ofNat (48 + k)) = some k := by decide
  exact hdigit _ (Nat.mod_lt n (by decide))

theorem octalDigit_ne_backslash : octalDigit n ≠ '\\' :=
  octalDigit_below n (p := (· ≠ '\\')) (by decide)

theorem octalDigit_ne_quote : octalDigit n ≠ '"' :=
  octalDigit_below n (p := (· ≠ '"')) (by decide)

theorem octalDigit_printable : 32 ≤ (octalDigit n).toNat ∧ (octalDigit n).toNat ≤ 126 :=
  octalDigit_below n (p := fun c => 32 ≤ c.toNat ∧ c.toNat ≤ 126) (by decide)

end OctalDigit

/-- An escaped byte is read back whatever follows it: no digit behind it is taken for a part of it. -/
theorem unescape_octalEscape (b : UInt8) (r : List Char) :
    unescape (octalEscape b ++ r) = Char.ofNat b.toNat :: unescape r := by
  have hb : b.toNat < 2 ^ 8 := b.toNat_lt
  have hvalue : 8 * (8 * (b.toNat / 64 % 8) + b.toNat / 8 % 8) + b.toNat % 8 = b.toNat := by omega
  exact (unescape_octal (octalValue?_octalDigit _) (octalValue?_octalDigit _)
    (octalValue?_octalDigit _) r).trans (by rw [hvalue])

theorem unescape_flatMap_octalEscape (bytes : List UInt8) (r : List Char) :
    unescape (bytes.flatMap octalEscape ++ r) =
      bytes.map (fun b => Char.ofNat b.toNat) ++ unescape r := by
  induction bytes with
  | nil => rfl
  | cons b bytes ih =>
    rw [List.flatMap_cons, List.append_assoc, unescape_octalEscape, ih, List.map_cons,
      List.cons_append]

theorem utf8EncodeChar_of_lt {c : Char} (h : c.toNat < 128) :
    String.utf8EncodeChar c = [UInt8.ofNat c.toNat] := by
  have hc : c.val.toNat ≤ 127 := Nat.le_of_lt_succ h
  unfold String.utf8EncodeChar
  simp only [if_pos hc]
  rfl

private theorem bytes_of_lt {c : Char} (h : c.toNat < 128) :
    (String.utf8EncodeChar c).map (fun b => Char.ofNat b.toNat) = [c] := by
  have hmod : c.toNat % 256 = c.toNat := Nat.mod_eq_of_lt (by omega)
  simp [utf8EncodeChar_of_lt h, hmod]

/-- A quoted character is read back as its bytes, whatever follows it. -/
theorem unescape_quotedChar (c : Char) (r : List Char) :
    unescape (quotedChar c ++ r) =
      (String.utf8EncodeChar c).map (fun b => Char.ofNat b.toNat) ++ unescape r := by
  unfold quotedChar
  split_ifs with hbackslash hquote htab hfeed hreturn hprintable
  · subst hbackslash
    exact unescape_escaped (by decide) r
  · subst hquote
    exact unescape_escaped (by decide) r
  · subst htab
    exact unescape_escaped (by decide) r
  · subst hfeed
    exact unescape_escaped (by decide) r
  · subst hreturn
    exact unescape_escaped (by decide) r
  · rw [bytes_of_lt (by omega)]
    exact unescape_cons hbackslash r
  · exact unescape_flatMap_octalEscape _ r

theorem unescape_flatMap_quotedChar (s : List Char) :
    unescape (s.flatMap quotedChar) = (utf8 s).map fun b => Char.ofNat b.toNat := by
  induction s with
  | nil => rfl
  | cons c s ih =>
    rw [List.flatMap_cons, unescape_quotedChar, ih, utf8, utf8, List.flatMap_cons, List.map_append]

/-- Text in which every backslash escapes the character behind it, and double quotes stand escaped
only. -/
inductive IsQuoted : List Char → Prop
  | nil : IsQuoted []
  | plain {c : Char} {s : List Char} (hbackslash : c ≠ '\\') (hquote : c ≠ '"') (hs : IsQuoted s) :
      IsQuoted (c :: s)
  | escape (c : Char) {s : List Char} (hs : IsQuoted s) : IsQuoted ('\\' :: c :: s)

namespace IsQuoted
variable {s t : List Char}

theorem append (hs : IsQuoted s) (ht : IsQuoted t) : IsQuoted (s ++ t) := by
  induction hs with
  | nil => exact ht
  | plain hbackslash hquote _ ih => exact .plain hbackslash hquote ih
  | escape c _ ih => exact .escape c ih

theorem flatMap {α : Type} {f : α → List Char} (h : ∀ a, IsQuoted (f a)) (as : List α) :
    IsQuoted (as.flatMap f) := by
  induction as with
  | nil => exact .nil
  | cons a as ih => exact (h a).append ih

theorem octalEscape (b : UInt8) : IsQuoted (octalEscape b) :=
  .escape _ (.plain (octalDigit_ne_backslash _) (octalDigit_ne_quote _)
    (.plain (octalDigit_ne_backslash _) (octalDigit_ne_quote _) .nil))

theorem quotedChar (c : Char) : IsQuoted (quotedChar c) := by
  unfold Text.quotedChar
  split_ifs with hbackslash hquote
  iterate 5 exact .escape _ .nil
  · exact .plain hbackslash hquote .nil
  · exact flatMap octalEscape _

end IsQuoted

/-- The text ends in a backslash that is not the second of a pair. -/
def endsUnpaired (s : List Char) : Bool := (s.reverse.takeWhile (· == '\\')).length % 2 == 1

@[simp] theorem endsUnpaired_concat (s : List Char) (c : Char) :
    endsUnpaired (s ++ [c]) = (c == '\\' && !endsUnpaired s) := by
  by_cases hc : c = '\\'
  · simp only [endsUnpaired, List.reverse_append, List.reverse_singleton, List.singleton_append,
      List.takeWhile_cons, hc, beq_self_eq_true, if_true, List.length_cons, Bool.true_and]
    rcases Nat.mod_two_eq_zero_or_one (s.reverse.takeWhile (· == '\\')).length with h | h <;>
      simp [Nat.add_mod, h]
  · simp [endsUnpaired, hc]

private theorem endsUnpaired_pair {p : List Char} (c : Char) (hp : endsUnpaired p = false) :
    endsUnpaired (p ++ ['\\'] ++ [c]) = false := by
  rw [endsUnpaired_concat, endsUnpaired_concat, hp]
  simp

/-- Behind text with all backslashes paired, a double quote has an unpaired one before it. -/
theorem IsQuoted.endsUnpaired_of_quote {s : List Char} (hs : IsQuoted s) {p a b : List Char}
    (hp : endsUnpaired p = false) (h : s = a ++ '"' :: b) : endsUnpaired (p ++ a) := by
  induction hs generalizing p a with
  | nil => simp at h
  | @plain c s hbackslash hquote _ ih =>
    cases a with
    | nil => exact absurd (List.cons.inj h).1 hquote
    | cons d a =>
      obtain ⟨rfl, rfl⟩ := List.cons.inj h
      have hnext := ih (p := p ++ [c]) (a := a) (by simp [hbackslash]) rfl
      rwa [List.append_assoc] at hnext
  | @escape c s _ ih =>
    rcases a with _ | ⟨d, _ | ⟨e, a⟩⟩
    · cases h
    · obtain rfl : '\\' = d := (List.cons.inj h).1
      simp [hp]
    · obtain ⟨rfl, htail⟩ := List.cons.inj h
      obtain ⟨rfl, rfl⟩ := List.cons.inj htail
      have hnext := ih (p := p ++ ['\\'] ++ [c]) (a := a) (endsUnpaired_pair c hp) rfl
      rwa [List.append_assoc, List.append_assoc] at hnext

theorem IsQuoted.endsUnpaired {s : List Char} (hs : IsQuoted s) {p : List Char}
    (hp : endsUnpaired p = false) : Text.endsUnpaired (p ++ s) = false := by
  induction hs generalizing p with
  | nil => simpa using hp
  | @plain c s hbackslash _ _ ih =>
    simpa using ih (p := p ++ [c]) (by simp [hbackslash])
  | @escape c s _ ih =>
    simpa using ih (p := p ++ ['\\'] ++ [c]) (endsUnpaired_pair c hp)

theorem quotedChar_printable (c : Char) : ∀ d ∈ quotedChar c, 32 ≤ d.toNat ∧ d.toNat ≤ 126 := by
  unfold quotedChar
  split_ifs with hbackslash hquote htab hfeed hreturn hprintable
  iterate 5 simp
  · intro d hd
    obtain rfl := List.mem_singleton.1 hd
    omega
  · intro d hd
    obtain ⟨b, -, hd⟩ := List.mem_flatMap.1 hd
    rcases List.mem_cons.1 hd with rfl | hd
    · decide
    · simp only [List.mem_cons, List.not_mem_nil, or_false] at hd
      rcases hd with rfl | rfl | rfl <;> exact octalDigit_printable _

/-- What stands between the quotes of a C string that writes the text `s`. Every double quote in it
has an unpaired backslash before it; the quote behind it has none. -/
structure Writes (body s : List Char) : Prop where
  printable : ∀ c ∈ body, 32 ≤ c.toNat ∧ c.toNat ≤ 126
  guarded : ∀ a b, body = a ++ '"' :: b → endsUnpaired a
  closed : endsUnpaired body = false
  bytes : (unescape body).map Char.toNat = (utf8 s).map UInt8.toNat

theorem toNat_ofNat_byte (b : UInt8) : (Char.ofNat b.toNat).toNat = b.toNat := by
  have hvalid : b.toNat.isValidChar := Or.inl (Nat.lt_trans b.toNat_lt (by decide))
  rw [Char.ofNat, dif_pos hvalid]
  rfl

theorem writes_quoted (s : List Char) : Writes (s.flatMap quotedChar) s := by
  have hquoted : IsQuoted (s.flatMap quotedChar) := .flatMap .quotedChar s
  refine ⟨fun c hc => ?_, fun a b h => ?_, ?_, ?_⟩
  · obtain ⟨d, -, hc⟩ := List.mem_flatMap.1 hc
    exact quotedChar_printable d c hc
  · exact hquoted.endsUnpaired_of_quote (p := []) rfl h
  · exact hquoted.endsUnpaired (p := []) rfl
  · rw [unescape_flatMap_quotedChar, List.map_map]
    exact List.map_congr_left fun b _ => toNat_ofNat_byte b

theorem quoteC_eq (s : List Char) : quoteC s = '"' :: (s.flatMap quotedChar ++ ['"']) := rfl

end SqlConsole.Text

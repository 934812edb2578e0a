import SqlConsole.Delimited.Field
import SqlConsole.Delimited.Record
import SqlConsole.Proofs.Text.Lines

/-! Quotes that stand in pairs, and what they keep from being read as a line end or a separator. -/
namespace SqlConsole.Delimited

open Text (isLineEnd)

theorem isBalanced_append (s t : List Char) :
    isBalanced (s ++ t) = (isBalanced s == isBalanced t) := by
  simp only [isBalanced, List.count_append]
  rcases Nat.mod_two_eq_zero_or_one (s.count '"') with hs | hs <;>
    rcases Nat.mod_two_eq_zero_or_one (t.count '"') with ht | ht <;>
    simp [Nat.add_mod, hs, ht]

theorem isBalanced_singleton (c : Char) : isBalanced [c] = !(c == '"') := by
  by_cases hc : c = '"' <;> simp [isBalanced, hc]

theorem isBalanced_concat (s : List Char) (c : Char) :
    (!isBalanced (s ++ [c])) = (!isBalanced s ^^ c == '"') := by
  rw [isBalanced_append, isBalanced_singleton]
  cases isBalanced s <;> cases c == '"' <;> rfl

/-- Whether the end of a text stands inside quotes, by way of its first character. -/
theorem isBalanced_cons (quoted : Bool) (c : Char) (s : List Char) :
    (quoted ^^ !isBalanced (c :: s)) = (quoted ^^ (c == '"') ^^ !isBalanced s) := by
  rw [← List.singleton_append, isBalanced_append, isBalanced_singleton]
  cases quoted <;> cases isBalanced s <;> cases c == '"' <;> rfl

theorem isBalanced_of_forall {s : List Char} (hs : ∀ c ∈ s, c ≠ '"') : isBalanced s := by
  have hcount : s.count '"' = 0 := List.count_eq_zero.2 fun h => hs _ h rfl
  simp [isBalanced, hcount]

/-- Characters of a kind stand inside quotes only. Whether the text starts inside quotes is told. -/
def Sheltered (p : Char → Bool) (quoted : Bool) : List Char → Prop
  | [] => True
  | c :: r => (p c → quoted) ∧ Sheltered p (quoted ^^ (c == '"')) r

namespace Sheltered
variable {p : Char → Bool} {quoted : Bool} {s t : List Char}

theorem append (hs : Sheltered p quoted s) (ht : Sheltered p (quoted ^^ !isBalanced s) t) :
    Sheltered p quoted (s ++ t) := by
  induction s generalizing quoted with
  | nil => simpa [isBalanced] using ht
  | cons c s ih => exact ⟨hs.1, ih hs.2 (by rwa [← isBalanced_cons])⟩

theorem append_of_balanced (hs : Sheltered p quoted s) (hbalanced : isBalanced s)
    (ht : Sheltered p quoted t) : Sheltered p quoted (s ++ t) :=
  hs.append (by simpa [hbalanced] using ht)

theorem of_forall (hs : ∀ c ∈ s, p c = false) : Sheltered p quoted s := by
  induction s generalizing quoted with
  | nil => trivial
  | cons c s ih =>
    refine ⟨fun h => ?_, ih fun d hd => hs d (List.mem_cons_of_mem c hd)⟩
    rw [hs c List.mem_cons_self] at h
    cases h

theorem of_concat {c : Char} (hs : Sheltered p quoted (s ++ [c])) (hc : p c) :
    (quoted ^^ !isBalanced s) = true := by
  induction s generalizing quoted with
  | nil => simpa [isBalanced] using hs.1 hc
  | cons d s ih => rw [isBalanced_cons]; exact ih hs.2

/-- Where all quotes are closed, the last character is not of the kind. -/
theorem getLast?_ne {c : Char} (hs : Sheltered p false s) (hbalanced : isBalanced s) (hc : p c)
    (hq : c ≠ '"') : s.getLast? ≠ some c := by
  intro h
  obtain ⟨s, rfl⟩ := List.getLast?_eq_some_iff.1 h
  have hinside := hs.of_concat hc
  rw [isBalanced_append, isBalanced_singleton] at hbalanced
  simp_all

end Sheltered

theorem occursIn_singleton (m : Char) (s : List Char) : occursIn [m] s = s.contains m := by
  induction s with
  | nil => rfl
  | cons c s ih =>
    rw [occursIn, ih, List.contains_cons]
    simp [List.isPrefixOf]

theorem not_quote_of_not_needsQuote {separator s : List Char}
    (hs : needsQuote separator s = false) : ∀ c ∈ s, c ≠ '"' := by
  simp only [needsQuote, Bool.or_eq_false_iff, List.any_eq_false] at hs
  intro c hc
  have hprintable := hs.2 c hc
  simp only [Bool.or_eq_true, beq_iff_eq, decide_eq_true_eq, not_or] at hprintable
  exact hprintable.1.1

/-- A field that is written as it stands holds no quote, no line end and no separator. -/
theorem forall_of_not_needsQuote {m : Char} {s : List Char} (hs : needsQuote [m] s = false) :
    ∀ c ∈ s, c ≠ '"' ∧ isLineEnd c = false ∧ c ≠ m := by
  intro c hc
  simp only [needsQuote, occursIn_singleton, Bool.or_eq_false_iff, List.any_eq_false] at hs
  obtain ⟨hm, hs⟩ := hs
  have hprintable := hs c hc
  simp only [Bool.or_eq_true, beq_iff_eq, decide_eq_true_eq, not_or] at hprintable
  refine ⟨hprintable.1.1, ?_, ?_⟩
  · rw [Bool.eq_false_iff]
    intro hend
    rcases (Text.isLineEnd_iff c).1 hend with rfl | rfl <;> exact hprintable.1.2 (by decide)
  · rintro rfl
    simp [hc] at hm

theorem isBalanced_double (s : List Char) : isBalanced (Text.double '"' s) := by
  induction s with
  | nil => rfl
  | cons c s ih =>
    rw [Text.double_cons, isBalanced_append, ih]
    by_cases hc : c = '"'
    · rw [if_pos hc]
      rfl
    · rw [if_neg hc, isBalanced_singleton]
      simpa using hc

theorem isBalanced_enclose (s : List Char) : isBalanced (Text.enclose '"' s) := by
  rw [Text.enclose, List.cons_append, ← List.singleton_append, isBalanced_append, isBalanced_append,
    isBalanced_double]
  rfl

theorem isBalanced_field (m : Char) (s : List Char) : isBalanced (field [m] s) := by
  cases h : needsQuote [m] s with
  | true => rw [field, if_pos h]; exact isBalanced_enclose s
  | false =>
    rw [field, h]
    exact isBalanced_of_forall fun c hc => (forall_of_not_needsQuote h c hc).1

section
variable {p : Char → Bool} (hp : p '"' = false)
include hp

/-- Between quotes any character may stand. -/
theorem sheltered_double (s : List Char) : Sheltered p true (Text.double '"' s) := by
  induction s with
  | nil => trivial
  | cons c s ih =>
    rw [Text.double_cons]
    by_cases hc : c = '"'
    · rw [if_pos hc]
      exact ⟨fun _ => rfl, by simp [hp], ih⟩
    · rw [if_neg hc]
      refine ⟨fun _ => rfl, ?_⟩
      rw [beq_eq_false_iff_ne.2 hc]
      exact ih

theorem sheltered_enclose (s : List Char) : Sheltered p false (Text.enclose '"' s) := by
  refine ⟨by simp [hp], (sheltered_double hp s).append_of_balanced (isBalanced_double s) ?_⟩
  exact ⟨by simp [hp], trivial⟩

end

/-- A field keeps line ends and separators inside quotes. -/
theorem sheltered_field {m : Char} (hm : m ≠ '"') (s : List Char) :
    Sheltered isLineEnd false (field [m] s) ∧ Sheltered (· == m) false (field [m] s) := by
  cases h : needsQuote [m] s with
  | true =>
    rw [field, if_pos h]
    have hquote : ('"' == m) = false := beq_eq_false_iff_ne.2 hm.symm
    exact ⟨sheltered_enclose rfl s, sheltered_enclose (p := (· == m)) hquote s⟩
  | false =>
    rw [field, h]
    have hplain := forall_of_not_needsQuote h
    exact ⟨.of_forall fun c hc => (hplain c hc).2.1,
      .of_forall fun c hc => beq_eq_false_iff_ne.2 (hplain c hc).2.2⟩

end SqlConsole.Delimited

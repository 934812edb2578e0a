import SqlConsole.Proofs.Statement.Shape
import SqlConsole.Statement.Blank

/-! Text without content as a grammar: what the scan for white space and comments accepts. -/
namespace SqlConsole.Statement

/-- Characters that `free` allows, and comments. A block comment ends at the first end in it, and a
line comment with its line or with the text. -/
inductive Filler (free : Char → Bool) : List Char → Prop where
  | nil : Filler free []
  | char {c : Char} {r : List Char} (hc : free c) (hr : Filler free r) : Filler free (c :: r)
  | block {u r : List Char} (hu : NoEnd u) (hr : Filler free r) :
      Filler free ('/' :: '*' :: (u ++ '*' :: '/' :: r))
  | line {v r : List Char} (hv : '\n' ∉ v) (hr : Filler free r) :
      Filler free ('-' :: '-' :: (v ++ '\n' :: r))
  | lastLine {v : List Char} (hv : '\n' ∉ v) : Filler free ('-' :: '-' :: v)

/-- What is left of such a text, from a place in it on. -/
def Filler.From (free : Char → Bool) : Place → List Char → Prop
  | .outside, s => Filler free s
  | .block, s => ∃ u r, s = u ++ '*' :: '/' :: r ∧ NoEnd u ∧ Filler free r
  | .line, s => '\n' ∉ s ∨ ∃ v r, s = v ++ '\n' :: r ∧ '\n' ∉ v ∧ Filler free r

namespace Filler
variable {free : Char → Bool} {c : Char} {r : List Char}

private theorem block_iff (hfree : free '/' = false) :
    Filler free ('/' :: '*' :: r) ↔ From free .block r := by
  constructor
  · intro h
    cases h with
    | char hc => rw [hfree] at hc; cases hc
    | block hu hr => exact ⟨_, _, rfl, hu, hr⟩
  · rintro ⟨u, r, rfl, hu, hr⟩
    exact .block hu hr

private theorem line_iff (hfree : free '-' = false) :
    Filler free ('-' :: '-' :: r) ↔ From free .line r := by
  constructor
  · intro h
    cases h with
    | char hc => rw [hfree] at hc; cases hc
    | line hv hr => exact Or.inr ⟨_, _, rfl, hv, hr⟩
    | lastLine hv => exact Or.inl hv
  · rintro (hv | ⟨v, r, rfl, hv, hr⟩)
    · exact .lastLine hv
    · exact .line hv hr

private theorem char_iff (hb : ∀ u, c = '/' → r = '*' :: u → False)
    (hl : ∀ u, c = '-' → r = '-' :: u → False) : Filler free (c :: r) ↔ free c ∧ Filler free r := by
  constructor
  · intro h
    cases h with
    | char hc hr => exact ⟨hc, hr⟩
    | block => exact (hb _ rfl rfl).elim
    | line => exact (hl _ rfl rfl).elim
    | lastLine => exact (hl _ rfl rfl).elim
  · exact fun h => .char h.1 h.2

private theorem block_end_iff : From free .block ('*' :: '/' :: r) ↔ Filler free r := by
  constructor
  · rintro ⟨u, r', h, hu, hr⟩
    cases u with
    | nil =>
      simp only [List.nil_append, List.cons.injEq, true_and] at h
      exact h ▸ hr
    | cons x u =>
      obtain ⟨rfl, he⟩ := List.cons.inj h
      exact absurd he.symm hu.not_end
  · exact fun h => ⟨[], r, rfl, .nil, h⟩

private theorem block_cons_iff (he : ∀ u, c = '*' → r = '/' :: u → False) :
    From free .block (c :: r) ↔ From free .block r := by
  constructor
  · rintro ⟨u, r', h, hu, hr⟩
    cases u with
    | nil =>
      simp only [List.nil_append, List.cons.injEq] at h
      exact (he _ h.1 h.2).elim
    | cons x u =>
      simp only [List.cons_append, List.cons.injEq] at h
      exact ⟨u, r', h.2, hu.of_cons, hr⟩
  · rintro ⟨u, r', rfl, hu, hr⟩
    exact ⟨c :: u, r', rfl, hu.cons he, hr⟩

private theorem line_end_iff : From free .line ('\n' :: r) ↔ Filler free r := by
  constructor
  · rintro (hv | ⟨v, r', h, hv, hr⟩)
    · simp at hv
    · cases v with
      | nil =>
        simp only [List.nil_append, List.cons.injEq, true_and] at h
        exact h ▸ hr
      | cons x v =>
        simp only [List.cons_append, List.cons.injEq] at h
        simp [← h.1] at hv
  · exact fun h => Or.inr ⟨[], r, rfl, by simp, h⟩

private theorem line_cons_iff (hc : c ≠ '\n') : From free .line (c :: r) ↔ From free .line r := by
  constructor
  · rintro (hv | ⟨v, r', h, hv, hr⟩)
    · exact Or.inl fun hx => hv (List.mem_cons_of_mem c hx)
    · cases v with
      | nil =>
        simp only [List.nil_append, List.cons.injEq] at h
        exact (hc h.1).elim
      | cons x v =>
        simp only [List.cons_append, List.cons.injEq] at h
        exact Or.inr ⟨v, r', h.2, fun hx => hv (List.mem_cons_of_mem x hx), hr⟩
  · rintro (hv | ⟨v, r', rfl, hv, hr⟩)
    · exact Or.inl (by simp [hv, hc.symm])
    · exact Or.inr ⟨c :: v, r', rfl, by simp [hv, hc.symm], hr⟩

end Filler

/-- The scan, where characters are looked at through `f`. What marks a comment has to be seen as what
it is. -/
private theorem isBlankFrom_map {f : Char → Char}
    (hf : ∀ x ∈ ['/', '*', '-', '\n'], ∀ c, f c = x ↔ c = x) (p : Place) (s : List Char) :
    isBlankFrom p (s.map f) = true ↔ Filler.From (fun c => Text.isBlank (f c)) p s := by
  have hmark {x : Char} (hx : x ∈ ['/', '*', '-', '\n']) {u r : List Char} (h : u.map f = x :: r) :
      ∃ u', u = x :: u' ∧ u'.map f = r := by
    obtain ⟨a, u', rfl, ha, hr⟩ := List.map_eq_cons_iff.1 h
    exact ⟨u', by rw [(hf x hx a).1 ha], hr⟩
  have hfix {x : Char} (hx : x ∈ ['/', '*', '-', '\n']) : f x = x := (hf x hx x).2 rfl
  generalize ht : s.map f = t
  fun_induction isBlankFrom p t generalizing s with
  | case1 =>
    rw [List.map_eq_nil_iff] at ht
    subst ht
    simp [Filler.From, Filler.nil]
  | case2 r ih =>
    obtain ⟨u, rfl, hu⟩ := hmark (by simp) ht
    obtain ⟨s, rfl, hs⟩ := hmark (by simp) hu
    exact (ih s hs).trans (Filler.block_iff (by rw [hfix (by simp)]; decide)).symm
  | case3 r ih =>
    obtain ⟨u, rfl, hu⟩ := hmark (by simp) ht
    obtain ⟨s, rfl, hs⟩ := hmark (by simp) hu
    exact (ih s hs).trans (Filler.line_iff (by rw [hfix (by simp)]; decide)).symm
  | case4 c r hb hl ih =>
    obtain ⟨a, s, rfl, rfl, hs⟩ := List.map_eq_cons_iff.1 ht
    have ih : isBlankFrom .outside r = true ↔ Filler _ s := ih s hs
    rw [Bool.and_eq_true, ih]
    refine (@Filler.char_iff (fun c => Text.isBlank (f c)) a s ?_ ?_).symm <;> intro u ha hu
    · subst ha hu
      exact hb (u.map f) (hfix (by simp)) (by rw [← hs, List.map_cons, hfix (by simp)])
    · subst ha hu
      exact hl (u.map f) (hfix (by simp)) (by rw [← hs, List.map_cons, hfix (by simp)])
  | case5 =>
    rw [List.map_eq_nil_iff] at ht
    subst ht
    simp [Filler.From]
  | case6 r ih =>
    obtain ⟨u, rfl, hu⟩ := hmark (by simp) ht
    obtain ⟨s, rfl, hs⟩ := hmark (by simp) hu
    exact (ih s hs).trans Filler.block_end_iff.symm
  | case7 c r he ih =>
    obtain ⟨a, s, rfl, rfl, hs⟩ := List.map_eq_cons_iff.1 ht
    refine (ih s hs).trans (Filler.block_cons_iff fun u ha hu => ?_).symm
    subst ha hu
    exact he (u.map f) (hfix (by simp)) (by rw [← hs, List.map_cons, hfix (by simp)])
  | case8 =>
    rw [List.map_eq_nil_iff] at ht
    subst ht
    simp [Filler.From]
  | case9 r ih =>
    obtain ⟨s, rfl, hs⟩ := hmark (by simp) ht
    exact (ih s hs).trans Filler.line_end_iff.symm
  | case10 c r hc ih =>
    obtain ⟨a, s, rfl, rfl, hs⟩ := List.map_eq_cons_iff.1 ht
    exact (ih s hs).trans (Filler.line_cons_iff fun ha => hc (by rw [ha, hfix (by simp)])).symm

/-- A text is blank if and only if it is made of white space and comments. -/
theorem isBlank_iff (s : List Char) : isBlank s = true ↔ Filler Text.isBlank s := by
  have := isBlankFrom_map (f := id) (fun _ _ _ => Iff.rfl) .outside s
  rwa [List.map_id] at this

/-- A character that stands between statements without being part of one. -/
def isIdle (c : Char) : Bool := Text.isBlank c || c == ';'

/-- A part is passed over if and only if it is made of white space, comments and semicolons. -/
theorem isVoid_iff (s : List Char) : isVoid s = true ↔ Filler isIdle s := by
  have hf : ∀ x ∈ ['/', '*', '-', '\n'], ∀ c, (if c = ';' then ' ' else c) = x ↔ c = x := by
    intro x hx c
    simp only [List.mem_cons, List.not_mem_nil, or_false] at hx
    rcases hx with rfl | rfl | rfl | rfl <;> split <;> simp_all
  have hfree : (fun c => Text.isBlank (if c = ';' then ' ' else c)) = isIdle := by
    funext c
    by_cases hc : c = ';'
    · subst hc; decide
    · simp [isIdle, hc]
  have := isBlankFrom_map hf .outside s
  rwa [hfree] at this

end SqlConsole.Statement

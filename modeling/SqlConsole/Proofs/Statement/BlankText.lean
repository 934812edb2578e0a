import SqlConsole.Proofs.Statement.Filler

/-! Text without content, taken apart into white space characters and comments. -/
namespace SqlConsole.Statement

/-- A white space character, or a comment that is at its end: a block comment at the first end that
comes after its opening, a line comment at the end of its line. -/
inductive BlankItem : List Char → Prop where
  | char {c : Char} (hc : Text.isBlank c) : BlankItem [c]
  | block {u : List Char} (hu : ∀ a b, u ++ ['*', '/'] = a ++ '*' :: '/' :: b → b = []) :
      BlankItem ('/' :: '*' :: (u ++ ['*', '/']))
  | line {v : List Char} (hv : '\n' ∉ v) : BlankItem ('-' :: '-' :: (v ++ ['\n']))

/-- A line comment that runs to the end of the text. -/
def IsLastComment (s : List Char) : Prop := ∃ v, '\n' ∉ v ∧ s = '-' :: '-' :: v

/-- Items one after the other, and perhaps a last line comment. -/
def IsBlankText (s : List Char) : Prop :=
  ∃ (items : List (List Char)) (last : List Char), (∀ i ∈ items, BlankItem i) ∧
    (last = [] ∨ IsLastComment last) ∧ s = items.flatten ++ last

/-- No end of a comment comes before the one behind the text. -/
theorem noEnd_iff {u : List Char} :
    NoEnd u ↔ ∀ a b, u ++ ['*', '/'] = a ++ '*' :: '/' :: b → b = [] := by
  constructor
  · intro hu a b h
    rcases List.eq_nil_or_concat b with rfl | ⟨b, d, rfl⟩
    · rfl
    · -- what is before the last character holds the earlier end
      have hinit : u ++ ['*'] = a ++ '*' :: '/' :: b := by
        have hsplit : (u ++ ['*']) ++ ['/'] = (a ++ '*' :: '/' :: b) ++ [d] := by simpa using h
        exact (List.append_inj' hsplit rfl).1
      exact absurd ⟨a, b, by simp [hinit]⟩ hu
  · rintro h ⟨a, b, hinfix⟩
    have hend : b ++ ['/'] = [] := h a (b ++ ['/']) (by
      have hjoined := congrArg (· ++ ['/']) hinfix
      simpa using hjoined.symm)
    simp at hend

theorem BlankItem.filler_append {i r : List Char} (hi : BlankItem i) (hr : Filler Text.isBlank r) :
    Filler Text.isBlank (i ++ r) := by
  cases hi with
  | char hc => exact .char hc hr
  | block hu => simpa using Filler.block (noEnd_iff.2 hu) hr
  | line hv => simpa using Filler.line hv hr

theorem IsBlankText.cons {i r : List Char} (hi : BlankItem i) (hr : IsBlankText r) :
    IsBlankText (i ++ r) := by
  obtain ⟨items, last, hitems, hlast, rfl⟩ := hr
  exact ⟨i :: items, last, List.forall_mem_cons.2 ⟨hi, hitems⟩, hlast, by simp⟩

theorem filler_iff {s : List Char} : Filler Text.isBlank s ↔ IsBlankText s := by
  constructor
  · intro h
    induction h with
    | nil => exact ⟨[], [], by simp, .inl rfl, rfl⟩
    | char hc _ ih => exact ih.cons (.char hc)
    | block hu _ ih => simpa using ih.cons (.block (noEnd_iff.1 hu))
    | line hv _ ih => simpa using ih.cons (.line hv)
    | lastLine hv => exact ⟨[], _, by simp, .inr ⟨_, hv, rfl⟩, rfl⟩
  · rintro ⟨items, last, hitems, hlast, rfl⟩
    induction items with
    | nil =>
      rcases hlast with rfl | ⟨v, hv, rfl⟩
      · exact .nil
      · exact .lastLine hv
    | cons i items ih =>
      obtain ⟨hi, hitems⟩ := List.forall_mem_cons.1 hitems
      rw [List.flatten_cons, List.append_assoc]
      exact hi.filler_append (ih hitems)

/-- A text is blank if and only if it can be taken apart into items, of which only the last may be a
comment without its end, and that a line comment. -/
theorem isBlank_iff_items (s : List Char) : isBlank s = true ↔ IsBlankText s :=
  (isBlank_iff s).trans filler_iff

/-- A comment is not at its end where it starts, and the ends of comments do not count in others. -/
example : isBlank "/*/".toList = false ∧ isBlank "--*/\n/*--*/ --".toList = true := by decide +kernel

end SqlConsole.Statement

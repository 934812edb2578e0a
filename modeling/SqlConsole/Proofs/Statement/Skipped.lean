import SqlConsole.Proofs.Statement.Coverage

/-! The tokens of text without content. Some of what is white space to a reader is a token of its
own. -/
namespace SqlConsole.Statement

/-- A token between statements: a semicolon, white space or a comment, or characters that are white
space to a reader and yet not between tokens. -/
def Lexeme.IsIdle (t : Lexeme) : Prop :=
  t.kind = .semicolon ∨ t.kind = .blank ∨ ∀ c ∈ t.text, Text.isBlank c ∧ ¬ isSpace c

variable {c : Char} {r l rest : List Char} {k : Token}

private theorem isIdle_cases (h : isIdle c) :
    c = ';' ∨ (c ≠ ';' ∧ isSpace c) ∨ (Text.isBlank c ∧ ¬ isSpace c) := by
  by_cases hc : c = ';'
  · exact Or.inl hc
  · by_cases hs : isSpace c
    · exact Or.inr (Or.inl ⟨hc, hs⟩)
    · exact Or.inr (Or.inr ⟨by simpa [isIdle, hc] using h, hs⟩)

private theorem isBlank_of_word (hi : isIdle c) (hc : isWordChar c) :
    Text.isBlank c ∧ ¬ isSpace c := by
  rcases isIdle_cases hi with rfl | ⟨-, hs⟩ | hb
  · exact absurd hc (by decide)
  · simp only [isSpace, Bool.or_eq_true, beq_iff_eq] at hs
    rcases hs with (((rfl | rfl) | rfl) | rfl) | rfl <;> exact absurd hc (by decide)
  · exact hb

/-- A word at the start of such a text is white space, and what follows it is such a text again. -/
private theorem word_of_filler (h : Filler isIdle r) :
    (∀ c ∈ r.takeWhile isWordChar, Text.isBlank c ∧ ¬ isSpace c) ∧
      Filler isIdle (r.dropWhile isWordChar) := by
  induction r with
  | nil => exact ⟨by simp, h⟩
  | cons c r ih =>
    cases hc : isWordChar c with
    | false => simpa [hc] using h
    | true =>
      cases h with
      | char hi hr => simpa [hc, isBlank_of_word hi hc] using ih hr
      | block => exact absurd hc (by decide)
      | line => exact absurd hc (by decide)
      | lastLine => exact absurd hc (by decide)

private theorem shape_of_isBlank (hb : Text.isBlank c) (hs : ¬ isSpace c) (next? : Option Char) :
    shape c next? = .word ∨ shape c next? = .single .other := by
  have hne : ∀ d ∈ [';', '/', '-', '[', '\x27', '"', '\x60'], c ≠ d := by
    rintro d hd rfl
    simp only [List.mem_cons, List.not_mem_nil, or_false] at hd
    rcases hd with rfl | rfl | rfl | rfl | rfl | rfl | rfl <;> exact absurd hb (by decide)
  simp only [List.forall_mem_cons] at hne
  simp only [shape, hne, hs, if_false, false_and, or_self, Bool.false_eq_true]
  split
  · exact Or.inl rfl
  · exact Or.inr rfl

private theorem token_of_filler (h : Filler isIdle (c :: r)) (hp : piece c r = .token k l rest) :
    Lexeme.IsIdle ⟨k, l⟩ ∧ Filler isIdle rest := by
  cases h with
  | char hc hr =>
    rw [piece_eq_shape] at hp
    rcases isIdle_cases hc with rfl | ⟨hne, hs⟩ | ⟨hb, hs⟩
    · obtain ⟨rfl, rfl, rfl⟩ := Piece.token.inj hp
      exact ⟨Or.inl rfl, hr⟩
    · rw [shape, if_neg hne, if_pos hs] at hp
      obtain ⟨rfl, rfl, rfl⟩ := Piece.token.inj hp
      exact ⟨Or.inr (Or.inl rfl), hr⟩
    · rcases shape_of_isBlank hb hs r.head? with he | he
      · rw [he] at hp
        obtain ⟨rfl, rfl, rfl⟩ := Piece.token.inj hp
        obtain ⟨hword, hrest⟩ := word_of_filler hr
        exact ⟨Or.inr (Or.inr (List.forall_mem_cons.2 ⟨⟨hb, hs⟩, hword⟩)), hrest⟩
      · rw [he] at hp
        obtain ⟨rfl, rfl, rfl⟩ := Piece.token.inj hp
        exact ⟨Or.inr (Or.inr (by simp [hb, hs])), hr⟩
  | block hu hr =>
    rw [piece_block, throughComment_eq_some.2 ⟨_, hu, rfl, rfl⟩] at hp
    obtain ⟨rfl, -, rfl⟩ := Piece.token.inj hp
    exact ⟨Or.inr (Or.inl rfl), hr⟩
  | line hv hr =>
    rw [piece_line, through_eq_some.2 ⟨_, hv, rfl, rfl⟩] at hp
    obtain ⟨rfl, -, rfl⟩ := Piece.token.inj hp
    exact ⟨Or.inr (Or.inl rfl), hr⟩
  | lastLine hv =>
    rw [piece_line, through_eq_none.2 hv] at hp
    cases hp

/-- Text without content has no other tokens than these. -/
theorem tokens_of_filler {s : List Char} (h : Filler isIdle s) : ∀ t ∈ (lexemes s).1, t.IsIdle := by
  fun_induction lexemes s with
  | case1 => simp
  | case2 c r k l rest hp ih =>
    obtain ⟨ht, hrest⟩ := token_of_filler h hp
    exact List.forall_mem_cons.2 ⟨ht, ih hrest⟩
  | case3 => simp
  | case4 => simp

end SqlConsole.Statement

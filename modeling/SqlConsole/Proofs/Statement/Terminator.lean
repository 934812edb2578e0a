import SqlConsole.Proofs.Statement.Coverage

/-! A semicolon on a line of its own, behind text that a semicolon would complete. -/
namespace SqlConsole.Statement

variable {c : Char} {r : List Char}

/-- A token that is open at the end of a text is not closed by a semicolon. -/
theorem open_semicolon (h : ∀ k l rest, piece c r ≠ .token k l rest) :
    piece c (r ++ [';']) = .unclosed ∨ piece c (r ++ [';']) = .lineComment := by
  refine piece_of_inside (b := []) fun k m u hp => ?_
  obtain ⟨m', hm, hr⟩ := cons_of_piece hp
  obtain ⟨-, rfl⟩ := List.cons.inj hm
  rcases List.eq_nil_or_concat u with rfl | ⟨u, d, rfl⟩
  · exact ⟨[], by simpa using hr.symm⟩
  · have happ : r ++ [';'] = (m ++ u) ++ [d] := by simpa using hr
    obtain ⟨rfl, hd⟩ := List.append_inj' happ rfl
    obtain rfl := List.singleton_inj.1 hd
    rw [List.append_assoc, List.concat_eq_append] at hp
    refine absurd (piece_of_rest hp ?_) (h k _ u)
    cases u with
    | nil => exact Or.inr apart_nil
    | cons e u => exact Or.inl rfl

/-- Where a line comment runs up to a semicolon, it ends before one on the next line. -/
private theorem comment_newline (h : piece c (r ++ [';']) = .lineComment) :
    ∃ l, piece c (r ++ ['\n', ';']) = .token .blank l [';'] := by
  rcases blank_cases h (Or.inr rfl) with ⟨-, he⟩ | ⟨rfl, u, hu⟩ | ⟨rfl, u, hu⟩
  · cases he
  · rw [hu, piece_block] at h
    split at h <;> cases h
  · cases r with
    | nil => cases hu
    | cons d r =>
      obtain ⟨rfl, rfl⟩ := List.cons.inj hu
      rw [hu, piece_line] at h
      split at h
      · cases h
      · rename_i hv
        have hr : '\n' ∉ r := fun hx => through_eq_none.1 hv (List.mem_append_left _ hx)
        refine ⟨'-' :: '-' :: (r ++ ['\n']), ?_⟩
        rw [List.cons_append, piece_line, through_eq_some.2 ⟨r, hr, rfl, rfl⟩]

theorem lexemes_rest (s : List Char) :
    (lexemes s).2 = [] ∨
      ∃ c r, (lexemes s).2 = c :: r ∧ ∀ k l rest, piece c r ≠ .token k l rest := by
  fun_induction lexemes s with
  | case1 => exact Or.inl rfl
  | case2 c r k l rest hp ih => exact ih
  | case3 c r hp => exact Or.inr ⟨c, r, rfl, by simp [hp]⟩
  | case4 c r hp => exact Or.inr ⟨c, r, rfl, by simp [hp]⟩

/-- What text behind `b` makes of it depends on the state its tokens lead to, and on what is open at
its end. -/
theorem isComplete_append (b : List Char) :
    ((lexemes b).2 = [] ∧ ∀ t, Apart t →
        isComplete (b ++ t) = isCompleteFrom (State.invalid.after (lexemes b).1) t) ∨
      ∃ c r, (lexemes b).2 = c :: r ∧ (∀ k l rest, piece c r ≠ .token k l rest) ∧ ∀ t,
        isComplete (b ++ t) = isCompleteFrom (State.invalid.after (lexemes b).1) (c :: (r ++ t)) := by
  have hread := reads_lexemes b
  have hb := hread.spelling_eq
  rcases lexemes_rest b with hu | ⟨c, r, hu, hopen⟩
  · rw [hu, List.append_nil] at hb
    refine .inl ⟨hu, fun t ht => ?_⟩
    have hlonger := hread.of_rest (.inr ht)
    rw [hb] at hlonger
    rw [isComplete, hlonger.isCompleteFrom_eq]
  · rw [hu] at hread hb
    refine .inr ⟨c, r, hu, hopen, fun t => ?_⟩
    have hlonger := hread.of_rest (v := c :: (r ++ t)) (.inl rfl)
    rw [← List.cons_append, ← List.append_assoc, hb] at hlonger
    rw [isComplete, hlonger.isCompleteFrom_eq]
    rfl

theorem next_blank (q : State) : q.next .blank = q := by
  cases q <;> rfl

theorem isCompleteFrom_newline (q : State) (t : List Char) :
    isCompleteFrom q ('\n' :: t) = isCompleteFrom q t := by
  have hread : Reads ('\n' :: t) [⟨.blank, ['\n']⟩] t := .cons rfl (.nil t)
  rw [hread.isCompleteFrom_eq, State.after_cons, State.after_nil, next_blank]

/-- What a semicolon completes is completed by one on the next line as well, even behind a line
comment, which hides the first. -/
theorem isComplete_newline {b : List Char} (h : isComplete (b ++ [';'])) :
    isComplete (b ++ ['\n', ';']) := by
  rcases isComplete_append b with ⟨-, hb⟩ | ⟨c, r, -, hopen, hb⟩
  · rw [hb _ (apart_semicolon [])] at h
    rwa [hb _ (apart_newline [';']), isCompleteFrom_newline]
  · rw [hb, isCompleteFrom] at h
    rw [hb]
    split at h
    · rename_i hp
      rcases open_semicolon hopen with ho | ho <;> rw [ho] at hp <;> cases hp
    · rename_i hp
      obtain ⟨l, hl⟩ := comment_newline hp
      rw [(Reads.cons hl (.nil _)).isCompleteFrom_eq, beq_iff_eq.1 h]
      exact isCompleteFrom_semicolon _
    · cases h

/-- The same, where there may be no text before the semicolon. -/
theorem isComplete_of_endsAtSemicolon {b : List Char} (h : endsAtSemicolon b) :
    isComplete (b ++ ['\n', ';']) := by
  rcases Bool.or_eq_true_iff.1 h with hb | hb
  · rw [List.isEmpty_iff.1 hb, List.nil_append, isComplete,
      (Reads.cons (k := .blank) (l := ['\n']) rfl (.nil [';'])).isCompleteFrom_eq]
    exact isCompleteFrom_semicolon _
  · exact isComplete_newline hb

end SqlConsole.Statement

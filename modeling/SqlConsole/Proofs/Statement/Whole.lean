import SqlConsole.Proofs.Statement.Inert
import SqlConsole.Proofs.Statement.Trailing

/-! Text that is one statement with a semicolon on the next line. It is one in front of whatever follows
as well, and with a semicolon right behind it too, unless a line comment is open there. -/
namespace SqlConsole.Statement

variable {t : List Char} {ts mid us : List Lexeme} {q : State} {held p tail : List Char}

/-- With a semicolon on the next line the text is complete, and no shorter start of it is. -/
structure IsWhole (t : List Char) : Prop where
  judged : isJudged (t ++ ['\n', ';'])
  complete : isComplete (t ++ ['\n', ';'])
  first : first (t ++ ['\n', ';']) = (t ++ ['\n', ';'], [])

private theorem cuts_ne_nil :
    cuts q held (ts ++ [⟨.semicolon, [';']⟩]) [] ≠ [] := by
  induction ts generalizing q held with
  | nil =>
    rw [List.nil_append, cuts]
    split <;> simp [cuts]
  | cons t ts ih =>
    rw [List.cons_append, cuts]
    split
    · simp
    · exact ih

/-- Tokens in a text that is one part are read in one go, whatever stands behind them. -/
private theorem cuts_behind (h : cuts q held (ts ++ (mid ++ [⟨.semicolon, [';']⟩])) [] = [p])
    (held' : List Char) :
    cuts q held' (ts ++ us) tail = cuts (q.after ts) (held' ++ spelling ts) us tail := by
  induction ts generalizing q held held' with
  | nil => simp
  | cons t ts ih =>
    rw [List.cons_append, cuts] at h
    split at h
    · -- a cut here would leave the last semicolon to another part
      rw [← List.append_assoc] at h
      exact absurd (List.cons.inj h).2 cuts_ne_nil
    · next hcut =>
      rw [List.cons_append, cuts, if_neg hcut, ih h]
      simp

theorem reads_semicolon (rest : List Char) : Reads (';' :: rest) [⟨.semicolon, [';']⟩] rest :=
  .cons (piece_semicolon rest) (.nil rest)

/-- Tokens of one part, behind which a semicolon ends the statement. -/
private theorem isStatement_of_reads {s : List Char}
    (hreads : ∀ rest, Reads (s ++ ';' :: rest) ts (';' :: rest))
    (hpart : cuts .invalid [] (ts ++ (mid ++ [⟨.semicolon, [';']⟩])) [] = [p])
    (hend : (State.invalid.after ts).next .semicolon = .start) : IsStatement (s ++ [';']) := by
  intro rest
  refine ⟨ts ++ [⟨.semicolon, [';']⟩], ?_, fun held us tail => ?_⟩
  · simpa using (hreads rest).trans (reads_semicolon rest)
  · have hspelling : spelling ts = s := List.append_cancel_right (hreads rest).spelling_eq
    rw [List.append_assoc, cuts_behind hpart, hspelling, List.singleton_append, cuts,
      if_pos ⟨rfl, hend⟩, List.append_assoc]

/-- The text up to the end of its line is whole tokens, the last of them blank: the line end, with a
comment that is open before it. -/
private theorem reads_line (h : isComplete (t ++ ['\n', ';'])) :
    ∃ open_, ∀ rest,
      Reads (t ++ '\n' :: rest) ((lexemes t).1 ++ [⟨.blank, open_ ++ ['\n']⟩]) rest := by
  have hread := reads_lexemes t
  have ht := hread.spelling_eq
  rcases trailing_cases h with hu | ⟨v, hu, hv⟩
  · rw [hu, List.append_nil] at ht
    refine ⟨[], fun rest => ?_⟩
    have hlonger := hread.of_rest (.inr (apart_newline rest))
    rw [ht] at hlonger
    exact hlonger.trans (.cons (piece_space (by decide) rest) (.nil rest))
  · rw [hu] at hread ht
    refine ⟨'-' :: '-' :: v, fun rest => ?_⟩
    have hlonger := hread.of_rest (v := '-' :: '-' :: (v ++ '\n' :: rest)) (.inl rfl)
    have hwhole : spelling (lexemes t).1 ++ '-' :: '-' :: (v ++ '\n' :: rest) = t ++ '\n' :: rest := by
      rw [← List.cons_append, ← List.cons_append, ← List.append_assoc, ht]
    rw [hwhole] at hlonger
    exact hlonger.trans (.cons (piece_of_line hv rest) (.nil rest))

namespace IsWhole

/-- The tokens of the text lie in one part, and the next semicolon ends it. -/
private theorem one_part (h : IsWhole t) :
    ∃ open_, (∀ rest, Reads (t ++ '\n' :: rest) ((lexemes t).1 ++ [⟨.blank, open_ ++ ['\n']⟩]) rest) ∧
      cuts .invalid [] ((lexemes t).1 ++ [⟨.blank, open_ ++ ['\n']⟩, ⟨.semicolon, [';']⟩]) [] =
        [t ++ ['\n', ';']] ∧
      (State.invalid.after (lexemes t).1).next .semicolon = .start := by
  obtain ⟨open_, hline⟩ := reads_line h.complete
  have hread := (hline [';']).trans (reads_semicolon [])
  have hparts : parts (t ++ ['\n', ';']) = [t ++ ['\n', ';']] := by
    obtain ⟨c, r, hcr⟩ := List.exists_cons_of_ne_nil (l := t ++ ['\n', ';']) (by simp)
    have hfirst := h.first
    rw [hcr] at hfirst ⊢
    simp [parts, hfirst]
  refine ⟨open_, hline, ?_, ?_⟩
  · rw [parts_of_reads hread, List.append_assoc] at hparts
    exact hparts
  · have hcomplete := h.complete
    rw [hread.isComplete_eq, beq_iff_eq] at hcomplete
    simpa [next_blank] using hcomplete

theorem isStatement_newline (h : IsWhole t) : IsStatement (t ++ ['\n', ';']) := by
  obtain ⟨open_, hline, hpart, hend⟩ := h.one_part
  rw [List.append_cons t '\n']
  have hwhole : cuts .invalid []
      ((lexemes t).1 ++ [⟨.blank, open_ ++ ['\n']⟩] ++ ([] ++ [⟨.semicolon, [';']⟩]))
      [] = [t ++ ['\n', ';']] := by simpa using hpart
  refine isStatement_of_reads (fun rest => ?_) hwhole (by simpa [next_blank] using hend)
  simpa using hline (';' :: rest)

/-- Where no comment is open the semicolon may stand right behind the text. -/
theorem isStatement_semicolon (h : IsWhole t) (hends : ¬ EndsInComment t) :
    IsStatement (t ++ [';']) := by
  obtain ⟨open_, -, hpart, hend⟩ := h.one_part
  have hu : (lexemes t).2 = [] :=
    (trailing_cases h.complete).resolve_right fun ⟨v, hv, _⟩ => hends ⟨v, hv⟩
  have hwhole : cuts .invalid []
      ((lexemes t).1 ++ ([⟨.blank, open_ ++ ['\n']⟩] ++ [⟨.semicolon, [';']⟩])) [] =
      [t ++ ['\n', ';']] := hpart
  refine isStatement_of_reads (fun rest => ?_) hwhole hend
  have hread := reads_lexemes t
  have ht := hread.spelling_eq
  rw [hu, List.append_nil] at ht
  have hlonger := hread.of_rest (.inr (apart_semicolon rest))
  rwa [ht] at hlonger

/-- A comment that is open at the end begins on the last line. -/
theorem exists_dashes (h : IsWhole t) (hends : EndsInComment t) :
    ∃ a v, t = a ++ '-' :: '-' :: v ∧ '\n' ∉ v := by
  obtain ⟨v, hu⟩ := hends
  rcases trailing_cases h.complete with hnone | ⟨w, hw, hline⟩
  · rw [hnone] at hu
    cases hu
  · refine ⟨spelling (lexemes t).1, w, ?_, hline⟩
    rw [← hw]
    exact (reads_lexemes t).spelling_eq.symm

end IsWhole

/-- The semicolon of a statement is its last token. -/
theorem lexemes_of_isStatement {s : List Char} (h : IsStatement s) :
    ∃ own, lexemes s = (own ++ [⟨.semicolon, [';']⟩], []) := by
  have hparts : parts ([s].flatMap (· ++ ['\n'])) = [] ++ s :: [['\n']] := parts_lines (by simpa using h)
  obtain ⟨-, own, -, -, -, hs, -⟩ := lexemes_of_part hparts (by simp)
  exact ⟨own, hs⟩

end SqlConsole.Statement

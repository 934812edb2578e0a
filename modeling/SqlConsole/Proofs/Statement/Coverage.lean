import Mathlib.Data.List.TakeWhile
import SqlConsole.Proofs.Statement.Filler
import SqlConsole.Proofs.Statement.OnePass

/-! How the parts of a complete text divide into those that are run, each complete by itself, and
those that are passed over, which have no content. -/
namespace SqlConsole.Statement

variable {free : Char → Bool} {c : Char} {r l rest : List Char}

/-- A piece of blank text is white space, or it starts like a comment. -/
theorem blank_cases {p : Piece} (h : piece c r = p)
    (hp : (∃ l rest, p = .token .blank l rest) ∨ p = .lineComment) :
    (isSpace c ∧ p = .token .blank [c] r) ∨ (c = '/' ∧ ∃ r', r = '*' :: r') ∨
      c = '-' ∧ ∃ r', r = '-' :: r' := by
  have hother {f : Fence} : (Shape.fenced .other [] f .unclosed).piece c r ≠ p := by
    rintro rfl
    simp only [Shape.piece] at hp
    split at hp <;> simp at hp
  rw [piece_eq_shape] at h
  unfold shape at h
  split_ifs at h with h1 h2 h3 h4 h5 h6 h7
  · subst h
    simp [Shape.piece] at hp
  · exact Or.inl ⟨h2, h.symm⟩
  · exact Or.inr (Or.inl ⟨h3.1, List.head?_eq_some_iff.1 h3.2⟩)
  · exact Or.inr (Or.inr ⟨h4.1, List.head?_eq_some_iff.1 h4.2⟩)
  · exact absurd h hother
  · exact absurd h hother
  · subst h
    simp [Shape.piece, keyword_of_word] at hp
  · subst h
    simp [Shape.piece] at hp

theorem filler_of_token (hfree : ∀ c, isSpace c → free c)
    (h : piece c r = .token .blank l rest) (hr : Filler free rest) : Filler free (c :: r) := by
  rcases blank_cases h (Or.inl ⟨l, rest, rfl⟩) with ⟨hs, he⟩ | ⟨rfl, r, rfl⟩ | ⟨rfl, r, rfl⟩
  · exact .char (hfree c hs) ((Piece.token.inj he).2.2 ▸ hr)
  · rw [piece_block] at h
    split at h
    · rename_i a b hx
      obtain ⟨u, hu, -, rfl⟩ := throughComment_eq_some.1 hx
      rw [(Piece.token.inj h).2.2]
      exact .block hu hr
    · cases h
  · rw [piece_line] at h
    split at h
    · rename_i a b hx
      obtain ⟨v, hv, -, rfl⟩ := through_eq_some.1 hx
      rw [(Piece.token.inj h).2.2]
      exact .line hv hr
    · cases h

theorem filler_of_lineComment (h : piece c r = .lineComment) : Filler free (c :: r) := by
  rcases blank_cases h (Or.inr rfl) with ⟨-, he⟩ | ⟨rfl, r, rfl⟩ | ⟨rfl, r, rfl⟩
  · cases he
  · rw [piece_block] at h
    split at h <;> cases h
  · rw [piece_line] at h
    split at h
    · cases h
    · rename_i hx
      exact .lastLine (through_eq_none.1 hx)

private theorem filler_of_reads {s u : List Char} {ts : List Lexeme} (hfree : ∀ c, isSpace c → free c)
    (h : Reads s ts u) (hts : ∀ t ∈ ts, t.kind = .blank) (hu : Filler free u) : Filler free s := by
  induction h with
  | nil => exact hu
  | cons hp _ ih =>
    obtain ⟨hk, hts⟩ := List.forall_mem_cons.1 hts
    simp only at hk
    exact filler_of_token hfree (hk ▸ hp) (ih hts hu)

/-- A complete text has come to a place between statements, and at most a line comment is open. -/
private theorem end_of_isCompleteFrom {q : State} {s : List Char} (h : isCompleteFrom q s) :
    q.after (lexemes s).1 = .start ∧ Filler free (lexemes s).2 := by
  fun_induction lexemes s generalizing q with
  | case1 =>
    rw [isCompleteFrom] at h
    exact ⟨by simpa using h, .nil⟩
  | case2 c r k l rest hp ih =>
    rw [(Reads.cons hp (.nil rest)).isCompleteFrom_eq] at h
    exact ih h
  | case3 c r hp =>
    rw [isCompleteFrom] at h
    split at h
    · rename_i hp'; rw [hp] at hp'; cases hp'
    · exact ⟨by simpa using h, filler_of_lineComment hp⟩
    · cases h
  | case4 c r hp =>
    rw [isCompleteFrom] at h
    split at h
    · rename_i hp'; rw [hp] at hp'; cases hp'
    · rename_i hp'; rw [hp] at hp'; cases hp'
    · cases h

/-- A start between statements and one at the very beginning differ only for blank text. -/
private theorem after_start (ts : List Lexeme) :
    (∀ t ∈ ts, t.kind = .blank) ∨ State.start.after ts = State.invalid.after ts := by
  induction ts with
  | nil => simp
  | cons t ts ih =>
    obtain ⟨k, l⟩ := t
    cases k with
    | blank =>
      rcases ih with ih | ih
      · exact Or.inl (by simpa using ih)
      · exact Or.inr ih
    | _ => exact Or.inr rfl

private theorem semicolon_of_after {q : State} {ts : List Lexeme} (hq : q ≠ .start)
    (h : q.after ts = .start) :
    ∃ pre l post, ts = pre ++ ⟨.semicolon, l⟩ :: post ∧ (q.after pre).next .semicolon = .start := by
  induction ts generalizing q with
  | nil => exact (hq h).elim
  | cons t ts ih =>
    by_cases ht : t.kind = .semicolon ∧ q.next t.kind = .start
    · obtain ⟨k, l⟩ := t
      obtain ⟨rfl, hn⟩ := ht
      exact ⟨[], l, ts, rfl, hn⟩
    · obtain ⟨pre, l, post, rfl, hn⟩ := ih (next_ne_start hq ht) h
      exact ⟨t :: pre, l, post, rfl, hn⟩

private theorem blank_after_start {ts : List Lexeme} (h : ∀ t ∈ ts, t.kind = .blank) :
    State.start.after ts = .start := by
  induction ts with
  | nil => rfl
  | cons t ts ih =>
    obtain ⟨ht, hts⟩ := List.forall_mem_cons.1 h
    rw [State.after_cons, ht]
    exact ih hts

/-- A complete text is complete behind another statement as well. -/
private theorem isCompleteFrom_start {s : List Char} (h : isComplete s) : isCompleteFrom .start s := by
  have hend : State.invalid.after (lexemes s).1 = .start :=
    (@end_of_isCompleteFrom (fun _ => true) _ _ h).1
  have hstart : State.start.after (lexemes s).1 = .start := by
    rcases after_start (lexemes s).1 with hb | he
    · exact blank_after_start hb
    · rw [he, hend]
  rw [isComplete, (reads_lexemes s).isCompleteFrom_eq, hend] at h
  rwa [(reads_lexemes s).isCompleteFrom_eq, hstart]

private theorem complete_of_firstFrom {before s a b : List Char} (h : firstFrom before s = some (a, b)) :
    isComplete a ∧ ∃ x, a = x ++ [';'] := by
  fun_induction firstFrom before s with
  | case1 => simp at h
  | case2 before c r hc =>
    simp only [Option.some.injEq, Prod.mk.injEq] at h
    exact ⟨h.1 ▸ hc.2, before.reverse, h.1.symm⟩
  | case3 before c r hc ih => exact ih h

private theorem firstFrom_none {before s a b : List Char} (h : firstFrom before s = none)
    (hs : s = a ++ ';' :: b) : isComplete (before.reverse ++ a ++ [';']) = false := by
  induction a generalizing before s with
  | nil =>
    subst hs
    rw [List.nil_append, firstFrom] at h
    split at h
    · cases h
    · simp_all
  | cons x a ih =>
    subst hs
    rw [List.cons_append, firstFrom] at h
    split at h
    · cases h
    · simpa using ih h rfl

/-- A complete text of which no start is complete has nothing in it that could be run. -/
private theorem blank_of_firstFrom_none {s : List Char} (h : isCompleteFrom .start s)
    (hn : firstFrom [] s = none) : ∀ t ∈ (lexemes s).1, t.kind = .blank := by
  refine (after_start (lexemes s).1).resolve_right fun he => ?_
  have hend : State.start.after (lexemes s).1 = .start :=
    (@end_of_isCompleteFrom (fun _ => true) _ _ h).1
  obtain ⟨pre, l, post, hl, hnext⟩ := semicolon_of_after (by decide) (he ▸ hend)
  obtain ⟨v, hpre, hv⟩ := (hl ▸ reads_lexemes s).split
  cases hv with
  | @cons c r _ rest _ _ _ hp hr =>
    obtain ⟨rfl, rfl, rfl⟩ := semicolon_of_piece hp
    have hread := hpre.of_rest (v := [';']) (Or.inr (apart_semicolon []))
    have hfirst := firstFrom_none hn hpre.spelling_eq.symm
    rw [List.reverse_nil, List.nil_append, isComplete, hread.isCompleteFrom_eq,
      isCompleteFrom_semicolon, hnext] at hfirst
    cases hfirst

/-- The first statement of a complete text leaves a complete text, or one without content. -/
private theorem isCompleteFrom_rest {c : Char} {r a b : List Char} (h : isCompleteFrom .start (c :: r))
    (hf : first (c :: r) = (a, b)) (hb : b ≠ []) : isCompleteFrom .start b := by
  obtain ⟨own, hr, -, hnext⟩ := reads_first hf hb
  have hq : State.start.after (own ++ [⟨.semicolon, [';']⟩]) = .start := by
    rcases after_start (own ++ [⟨.semicolon, [';']⟩]) with hblank | he
    · exact blank_after_start hblank
    · rw [he, State.after_append]
      exact hnext
  rwa [hr.isCompleteFrom_eq, hq] at h

/-- Every part of a complete text is complete by itself and ends with its semicolon, or it is white
space and comments alone. -/
theorem parts_of_complete {s : List Char} (hfree : ∀ c, isSpace c → free c) (h : isComplete s) :
    ∀ p ∈ parts s, (isComplete p ∧ ∃ x, p = x ++ [';']) ∨ Filler free p := by
  replace h := isCompleteFrom_start h
  fun_induction parts s with
  | case1 => simp
  | case2 c r ih =>
    cases hx : firstFrom [] (c :: r) with
    | none =>
      have hfirst : first (c :: r) = (c :: r, []) := by rw [first, hx]; rfl
      have hblank := filler_of_reads hfree (reads_lexemes (c :: r)) (blank_of_firstFrom_none h hx)
        (end_of_isCompleteFrom h).2
      rw [hfirst]
      simpa [parts] using Or.inr hblank
    | some ab =>
      obtain ⟨a, b⟩ := ab
      have hfirst : first (c :: r) = (a, b) := by rw [first, hx]; rfl
      rw [hfirst] at ih ⊢
      refine List.forall_mem_cons.2 ⟨Or.inl (complete_of_firstFrom hx), ?_⟩
      by_cases hb : b = []
      · simp [hb, parts]
      · exact ih (isCompleteFrom_rest h hfirst hb)

private theorem isUnsettled_of_isJudged {s : List Char} (h : isJudged s) : isUnsettled s = false := by
  induction s with
  | nil => rfl
  | cons c r ih =>
    simp only [isJudged, List.contains_cons, Bool.not_or, Bool.and_eq_true, Bool.not_eq_true'] at h
    obtain ⟨hc, hr⟩ := h
    rw [isUnsettled, if_neg fun hz => by simp [hz] at hc]
    exact ih (by simpa [isJudged] using hr)

/-- Where it can be told where statements end, all parts of a text with content are run. -/
theorem runnable_of_isSettled {s : List Char} (h : isSettled s) :
    runnable s = (parts s).filter fun p => !isVoid p := by
  have hall : ∀ p ∈ parts s, !isUnsettled p := by
    simp only [isSettled, Bool.or_eq_true, List.all_eq_true] at h
    rcases h with h | h
    · intro p hp
      rw [isUnsettled_of_isJudged, Bool.not_false]
      simp only [isJudged, Bool.not_eq_true', List.contains_eq_mem, decide_eq_false_iff_not] at h ⊢
      intro hz
      exact h (by rw [← flatten_parts s]; exact List.mem_flatten.2 ⟨p, hp, hz⟩)
    · exact h
  rw [runnable, List.takeWhile_eq_self_iff.2 hall]

end SqlConsole.Statement

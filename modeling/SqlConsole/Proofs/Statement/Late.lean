import SqlConsole.Proofs.Statement.Terminator

/-! Text that becomes complete with a line that has no semicolon: behind a finished statement a block
comment runs over the end of a line, and is closed on that line. -/
namespace SqlConsole.Statement

variable {c : Char} {r t l rest s a last : List Char} {k : Token} {q : State}

/-- After a finished statement a block comment runs over the end of a line, and only white space and
comments follow it. -/
def ClosesLate (s : List Char) : Prop :=
  ∃ ts u rest, Reads s ts ('/' :: '*' :: (u ++ '*' :: '/' :: rest)) ∧ State.invalid.after ts = .start ∧
    NoEnd u ∧ '\n' ∈ u ∧ Filler isSpace rest

/-- A statement that has begun needs a semicolon. -/
theorem semicolon_mem (hq : q ≠ .start) (h : isCompleteFrom q s) : ';' ∈ s := by
  fun_induction isCompleteFrom q s with
  | case1 q => exact absurd (by simpa using h) hq
  | case2 q c r k l rest hp ih =>
    by_cases hk : k = .semicolon
    · subst hk
      simp [(semicolon_of_piece hp).1]
    · have hrest := ih (next_ne_start hq fun hn => hk hn.1) h
      rw [← append_of_piece hp]
      exact List.mem_append_right l hrest
  | case3 q c r hp => exact absurd (by simpa using h) hq
  | case4 => cases h

private theorem next_start (hk : k ≠ .semicolon) (h : q.next k = .start) : q = .start ∧ k = .blank := by
  cases q <;> cases k <;> simp_all [State.next]

/-- Between statements, text without a semicolon that leads to no other place is blank. -/
private theorem filler_of_isCompleteFrom (hs : ';' ∉ s) (h : isCompleteFrom .start s) :
    Filler isSpace s := by
  generalize hq : State.start = q at h
  fun_induction isCompleteFrom q s with
  | case1 => exact .nil
  | case2 q c r k l rest hp ih =>
    subst hq
    have hrest : ';' ∉ rest := fun hm => hs (by rw [← append_of_piece hp]; exact List.mem_append_right l hm)
    have hk : k ≠ .semicolon := by
      rintro rfl
      simp [(semicolon_of_piece hp).1] at hs
    have hnext : State.start.next k = .start := by
      by_contra hne
      exact hrest (semicolon_mem hne h)
    obtain ⟨-, rfl⟩ := next_start hk hnext
    exact filler_of_token (fun _ h => h) hp (ih hrest rfl h)
  | case3 q c r hp => exact filler_of_lineComment hp
  | case4 => cases h

theorem piece_space (hc : isSpace c) (r : List Char) : piece c r = .token .blank [c] r := by
  have hne : c ≠ ';' := by
    rintro rfl
    cases hc
  rw [piece, if_neg hne, if_pos hc]

theorem piece_of_block {u : List Char} (hu : NoEnd u) (r : List Char) :
    piece '/' ('*' :: (u ++ '*' :: '/' :: r)) = .token .blank ('/' :: '*' :: (u ++ ['*', '/'])) r := by
  rw [piece_block, throughComment_eq_some.2 ⟨u, hu, rfl, rfl⟩]

theorem piece_of_line {v : List Char} (hv : '\n' ∉ v) (r : List Char) :
    piece '-' ('-' :: (v ++ '\n' :: r)) = .token .blank ('-' :: '-' :: (v ++ ['\n'])) r := by
  rw [piece_line, through_eq_some.2 ⟨v, hv, rfl, rfl⟩]

theorem isCompleteFrom_lineComment (h : piece c r = .lineComment) (q : State) :
    isCompleteFrom q (c :: r) = (q == .start) := by
  rw [isCompleteFrom]
  split <;> rename_i hp <;> rw [h] at hp <;> first | rfl | cases hp

private theorem isCompleteFrom_blank (h : piece c r = .token .blank l rest) :
    isCompleteFrom .start (c :: r) = isCompleteFrom .start rest :=
  (Reads.cons h (.nil rest)).isCompleteFrom_eq .start

/-- Blank text and a line end behind it do not count between statements. -/
private theorem isCompleteFrom_filler (h : Filler isSpace s) (r : List Char) :
    isCompleteFrom .start (s ++ '\n' :: r) = isCompleteFrom .start r := by
  induction h with
  | nil => exact isCompleteFrom_blank (piece_space (by decide) r)
  | char hc _ ih => exact (isCompleteFrom_blank (piece_space hc _)).trans ih
  | @block u s hu _ ih =>
    have hp := piece_of_block hu (s ++ '\n' :: r)
    simpa [ih] using isCompleteFrom_blank hp
  | @line v s hv _ ih =>
    have hp := piece_of_line hv (s ++ '\n' :: r)
    simpa [ih] using isCompleteFrom_blank hp
  | lastLine hv => exact isCompleteFrom_blank (piece_of_line hv r)

private theorem isCompleteFrom_of_filler (h : Filler isSpace s) : isCompleteFrom .start s := by
  induction h with
  | nil =>
    rw [isCompleteFrom]
    rfl
  | char hc _ ih => rwa [isCompleteFrom_blank (piece_space hc _)]
  | block hu _ ih => rwa [isCompleteFrom_blank (piece_of_block hu _)]
  | line hv _ ih => rwa [isCompleteFrom_blank (piece_of_line hv _)]
  | @lastLine v hv =>
    have hp := piece_line v
    rw [through_eq_none.2 hv] at hp
    rw [isCompleteFrom_lineComment hp]
    rfl

private theorem Filler.concat {free : Char → Bool} (hfree : free '\n') (h : Filler free s)
    (hr : Filler free r) : Filler free (s ++ '\n' :: r) := by
  induction h with
  | nil => exact .char hfree hr
  | char hc _ ih => exact .char hc ih
  | block hu _ ih => simpa using Filler.block hu ih
  | line hv _ ih => simpa using Filler.line hv ih
  | lastLine hv => exact .line hv hr

theorem ClosesLate.isComplete (h : ClosesLate s) : isComplete s := by
  obtain ⟨ts, u, rest, hread, hts, hu, -, hrest⟩ := h
  rw [Statement.isComplete, hread.isCompleteFrom_eq, hts, isCompleteFrom_blank (piece_of_block hu _)]
  exact isCompleteFrom_of_filler hrest

/-- Text that has closed late stays so with one more line, if it is complete with it. -/
theorem ClosesLate.concat (h : ClosesLate a) (hlast : ';' ∉ last)
    (hcomplete : Statement.isComplete (a ++ '\n' :: last)) : ClosesLate (a ++ '\n' :: last) := by
  obtain ⟨ts, u, rest, hread, hts, hu, hmem, hrest⟩ := h
  have hlonger : Reads (a ++ '\n' :: last) ts
      ('/' :: '*' :: (u ++ '*' :: '/' :: (rest ++ '\n' :: last))) := by
    have := hread.of_rest (v := '/' :: '*' :: (u ++ '*' :: '/' :: (rest ++ '\n' :: last))) (.inl rfl)
    rw [← hread.spelling_eq]
    simpa using this
  rw [Statement.isComplete, hlonger.isCompleteFrom_eq, hts,
    isCompleteFrom_blank (piece_of_block hu _), isCompleteFrom_filler hrest] at hcomplete
  exact ⟨ts, u, _, hlonger, hts, hu, hmem,
    hrest.concat (by decide) (filler_of_isCompleteFrom hlast hcomplete)⟩

/-- What is open at the end of a text is closed in the text behind it. -/
theorem closed_behind (hopen : ∀ k l rest, piece c r ≠ .token k l rest)
    (h : piece c (r ++ t) = .token k l rest) : ∃ m, m ≠ [] ∧ l = c :: (r ++ m) ∧ t = m ++ rest := by
  obtain ⟨m, rfl, hm⟩ := cons_of_piece h
  rcases List.append_eq_append_iff.1 hm with ⟨m', rfl, rfl⟩ | ⟨r', rfl, rfl⟩
  · refine ⟨m', ?_, rfl, rfl⟩
    rintro rfl
    rw [List.append_nil] at h
    have halone := piece_of_rest h (.inr apart_nil)
    rw [List.append_nil] at halone
    exact hopen _ _ _ halone
  · rw [List.append_assoc] at h
    refine absurd (piece_of_rest h ?_) (hopen _ _ _)
    cases r' with
    | nil => exact .inr apart_nil
    | cons d r' => exact .inl rfl

/-- What opens a line comment, and that it runs to the end of the text. -/
theorem of_lineComment (h : piece c r = .lineComment) : ∃ v, c = '-' ∧ r = '-' :: v ∧ '\n' ∉ v := by
  rcases blank_cases h (.inr rfl) with ⟨-, he⟩ | ⟨rfl, r, rfl⟩ | ⟨rfl, r, rfl⟩
  · cases he
  · rw [piece_block] at h
    split at h <;> cases h
  · rw [piece_line] at h
    split at h
    · cases h
    · rename_i hx
      exact ⟨r, rfl, rfl, through_eq_none.1 hx⟩

/-- What is closed on a line without a semicolon, so that a place between statements is reached, is a
block comment that starts between statements. -/
private theorem comment_of_closed (hopen : ∀ k l rest, piece c r ≠ .token k l rest) (hlast : ';' ∉ last)
    (h : isCompleteFrom q (c :: (r ++ '\n' :: last))) :
    q = .start ∧ (piece c r = .lineComment ∨ ∃ u rest, '\n' ∈ u ∧ NoEnd u ∧ Filler isSpace rest ∧
      c :: (r ++ '\n' :: last) = '/' :: '*' :: (u ++ '*' :: '/' :: rest)) := by
  rw [isCompleteFrom] at h
  split at h
  · rename_i k l rest hp
    obtain ⟨m, hm, rfl, ht⟩ := closed_behind hopen hp
    obtain ⟨d, m, rfl⟩ := List.exists_cons_of_ne_nil hm
    obtain ⟨rfl, rfl⟩ := List.cons.inj ht
    have hk : k ≠ .semicolon := by
      rintro rfl
      simpa using (semicolon_of_piece hp).2.1
    have hrest : ';' ∉ rest := fun hs => hlast (List.mem_append_right m hs)
    have hnext : q.next k = .start := by
      by_contra hne
      exact hrest (semicolon_mem hne h)
    obtain ⟨rfl, rfl⟩ := next_start hk hnext
    refine ⟨rfl, ?_⟩
    rcases blank_cases hp (.inl ⟨_, _, rfl⟩) with ⟨-, he⟩ | ⟨rfl, r', hr⟩ | ⟨rfl, r', hr⟩
    · simpa using (Piece.token.inj he).2.1
    · right
      rw [hr, piece_block] at hp
      split at hp
      · rename_i a b hx
        obtain ⟨u, hu, rfl, rfl⟩ := throughComment_eq_some.1 hx
        obtain ⟨-, hl, rfl⟩ := Piece.token.inj hp
        refine ⟨u, _, ?_, hu, filler_of_isCompleteFrom hrest h, congrArg ('/' :: ·) hr⟩
        have hmem : '\n' ∈ '/' :: '*' :: (u ++ ['*', '/']) := by simp [hl]
        simpa using hmem
      · cases hp
    · left
      cases r with
      | nil => simp at hr
      | cons d r =>
        obtain rfl := (List.cons.inj hr).1
        rw [piece_line]
        split
        · rename_i hx
          exact absurd (by rw [piece_line, hx]) (hopen _ _ _)
        · rfl
  · rename_i hp
    obtain ⟨v, rfl, hr, hv⟩ := of_lineComment hp
    cases r with
    | nil => simp at hr
    | cons d r =>
      obtain ⟨rfl, rfl⟩ := List.cons.inj hr
      simp at hv
  · cases h

/-- A line without a semicolon leaves a text complete that was so before, or it closes the text
late. -/
theorem closesLate_of_isComplete (hlast : ';' ∉ last) (h : isComplete (a ++ '\n' :: last)) :
    isComplete a ∨ ClosesLate (a ++ '\n' :: last) := by
  rcases isComplete_append a with ⟨-, ha⟩ | ⟨c, r, hu, hopen, ha⟩
  · left
    have halone := ha [] apart_nil
    rw [List.append_nil, isCompleteFrom] at halone
    rw [ha _ (apart_newline last)] at h
    rw [halone]
    by_contra hq
    exact hlast (by simpa using semicolon_mem (by simpa using hq) h)
  · rw [ha] at h
    obtain ⟨hq, hline | ⟨u, rest, hmem, hnoEnd, hrest, he⟩⟩ := comment_of_closed hopen hlast h
    · left
      have halone := ha []
      rw [List.append_nil, List.append_nil] at halone
      rw [halone, hq, isCompleteFrom_lineComment hline]
      rfl
    · have hread := reads_lexemes a
      have hb := hread.spelling_eq
      rw [hu] at hread hb
      have hlonger := hread.of_rest (v := c :: (r ++ '\n' :: last)) (.inl rfl)
      rw [← List.cons_append, ← List.append_assoc, hb, List.cons_append, he] at hlonger
      exact .inr ⟨_, u, rest, hlonger, hq, hnoEnd, hmem, hrest⟩

end SqlConsole.Statement

import SqlConsole.Proofs.Statement.Late

/-! Lines that end a statement like a semicolon does, behind text that may end in a line comment. -/
namespace SqlConsole.Statement

variable {free : Char → Bool} {c : Char} {r l rest s a b line : List Char} {k : Token} {q : State}

/-- A line comment is open at the end of the text: it is left behind the last token. -/
def EndsInComment (s : List Char) : Prop := ∃ v, (lexemes s).2 = '-' :: '-' :: v

private theorem fence_of_newline {f : Fence} {u v : List Char} (h : f.find s = some (u ++ ['\n'], v)) :
    f = .upTo '\n' := by
  cases f with
  | upTo stop =>
    obtain ⟨w, -, hw, -⟩ := through_eq_some.1 h
    obtain ⟨-, hstop⟩ := List.append_inj' hw rfl
    obtain rfl : '\n' = stop := by simpa using hstop
    rfl
  | blockEnd =>
    obtain ⟨w, -, hw, -⟩ := throughComment_eq_some.1 h
    have hlast := congrArg List.getLast? hw
    simp at hlast

private theorem shape_newline {next? : Option Char} {lead : List Char} {o : Piece}
    (h : shape c next? = .fenced k lead (.upTo '\n') o) : c = '-' ∧ next? = some '-' ∧ lead = ['-'] := by
  unfold shape at h
  split_ifs at h with h1 h2 h3 h4 h5 h6 h7 <;> simp only [Shape.fenced.injEq] at h
  · simp at h
  · exact ⟨h4.1, h4.2, h.2.1.symm⟩
  · simp at h
  · obtain rfl : c = '\n' := by simpa using h.2.2.1
    simp at h6

private theorem lineComment_of_open {v : List Char}
    (hopen : ∀ k l rest, piece '-' ('-' :: v) ≠ .token k l rest) :
    '\n' ∉ v ∧ piece '-' ('-' :: v) = .lineComment := by
  cases hx : through '\n' v with
  | none => exact ⟨through_eq_none.1 hx, by rw [piece_line, hx]⟩
  | some p => exact absurd (by rw [piece_line, hx]) (hopen .blank ('-' :: '-' :: p.1) p.2)

/-- What is open at the end of a text, and closed by a line end, is a line comment. -/
private theorem lineComment_of_newline (hopen : ∀ k l rest, piece c r ≠ .token k l rest)
    (h : piece c (r ++ ['\n']) = .token k l rest) : piece c r = .lineComment := by
  have hwhole : l = c :: (r ++ ['\n']) := by
    obtain ⟨m, hm, rfl, ht⟩ := closed_behind hopen h
    cases m with
    | nil => exact absurd rfl hm
    | cons d m =>
      obtain ⟨rfl, hnil⟩ := List.cons.inj ht
      rw [(List.append_eq_nil_iff.1 hnil.symm).1]
  subst hwhole
  rw [piece_eq_shape] at h
  cases hs : shape c (r ++ ['\n']).head? with
  | single j =>
    rw [hs] at h
    simp [Shape.piece] at h
  | word =>
    rw [hs] at h
    simp only [Shape.piece, Piece.token.injEq, List.cons.injEq, true_and] at h
    have hword : '\n' ∈ (r ++ ['\n']).takeWhile isWordChar := by simp [h.2.1]
    exact absurd (List.mem_takeWhile_imp hword) (by decide)
  | fenced j lead f o =>
    obtain ⟨-, -, ho, hf, -⟩ := shape_fenced hs
    rw [hs] at h
    simp only [Shape.piece] at h
    split at h
    · rename_i u v hfind
      simp only [Piece.token.injEq, List.cons_append, List.cons.injEq, true_and] at h
      obtain ⟨-, e, he, -⟩ := find_self hf hfind
      obtain ⟨u, rfl⟩ := List.getLast?_eq_some_iff.1 he
      rw [← List.append_assoc] at h
      obtain ⟨rfl, hend⟩ := List.append_inj' h.2.1 rfl
      obtain rfl := List.singleton_inj.1 hend
      obtain rfl := fence_of_newline hfind
      obtain ⟨rfl, -, rfl⟩ := shape_newline hs
      exact (lineComment_of_open hopen).2
    · rcases ho with rfl | rfl <;> cases h

/-- What is open at the end of a text that a semicolon on the next line completes is a line comment. -/
private theorem lineComment_of_closed (hopen : ∀ k l rest, piece c r ≠ .token k l rest)
    (h : isCompleteFrom q (c :: (r ++ ['\n', ';']))) : piece c r = .lineComment := by
  by_cases hclosed : ∃ k l rest, piece c (r ++ ['\n']) = .token k l rest
  · obtain ⟨k, l, rest, hp⟩ := hclosed
    exact lineComment_of_newline hopen hp
  · have hstill := open_semicolon fun k l rest hp => hclosed ⟨k, l, rest, hp⟩
    rw [List.append_cons, isCompleteFrom] at h
    split at h
    · rename_i hp
      rcases hstill with ho | ho <;> rw [ho] at hp <;> cases hp
    · rename_i hp
      obtain ⟨v, rfl, hr, hv⟩ := of_lineComment hp
      have hmem : '\n' ∈ '-' :: v := by simp [← hr]
      exact absurd hmem (by simpa using hv)
    · cases h

/-- Where a semicolon on the next line completes a text, all of it is tokens, or there is a line comment
behind them. -/
theorem trailing_cases (h : isComplete (b ++ ['\n', ';'])) :
    (lexemes b).2 = [] ∨ ∃ v, (lexemes b).2 = '-' :: '-' :: v ∧ '\n' ∉ v := by
  rcases isComplete_append b with ⟨hu, -⟩ | ⟨c, r, hu, hopen, hb⟩
  · exact .inl hu
  · rw [hb] at h
    obtain ⟨v, rfl, rfl, hv⟩ := of_lineComment (lineComment_of_closed hopen h)
    exact .inr ⟨v, hu, hv⟩

/-- A semicolon behind a text completes it like one on the next line does, unless it gets into a line
comment. Then it changes nothing. -/
theorem isComplete_semicolon_iff (h : isComplete (b ++ ['\n', ';'])) :
    isComplete (b ++ [';']) ↔ ¬ EndsInComment b ∨ isComplete b := by
  rcases isComplete_append b with ⟨hu, hb⟩ | ⟨c, r, hu, hopen, hb⟩
  · have hends : ¬ EndsInComment b := by simp [EndsInComment, hu]
    rw [hb _ (apart_newline [';']), isCompleteFrom_newline] at h
    rw [hb _ (apart_semicolon [])]
    exact iff_of_true h (.inl hends)
  · rw [hb] at h
    have hline := lineComment_of_closed hopen h
    obtain ⟨v, rfl, rfl, hv⟩ := of_lineComment hline
    have hends : EndsInComment b := ⟨v, hu⟩
    have hbehind : piece '-' ('-' :: v ++ [';']) = .lineComment := by
      rw [List.cons_append, piece_line, through_eq_none.2 (by simpa using hv)]
    have halone := hb []
    rw [List.append_nil, List.append_nil, isCompleteFrom_lineComment hline] at halone
    rw [halone, hb, isCompleteFrom_lineComment hbehind]
    simp [hends]

/-- A text and a semicolon on one line: what stands on the next lines is read as from the start of a
statement, unless the semicolon gets into a line comment behind text that it should end. -/
theorem exists_behind_line (h : isComplete (b ++ ['\n', ';'])) :
    ∃ q : State, (q = .start ↔ (EndsInComment b → isComplete b)) ∧
      ∀ rest, isComplete (b ++ ';' :: '\n' :: rest) = isCompleteFrom q rest := by
  rcases isComplete_append b with ⟨hu, hb⟩ | ⟨c, r, hu, hopen, hb⟩
  · have hends : ¬ EndsInComment b := by simp [EndsInComment, hu]
    rw [hb _ (apart_newline [';']), isCompleteFrom_newline, isCompleteFrom_semicolon] at h
    refine ⟨_, iff_of_true (beq_iff_eq.1 h) fun hc => absurd hc hends, fun rest => ?_⟩
    rw [hb _ (apart_semicolon _), (Reads.cons (piece_semicolon _) (.nil _)).isCompleteFrom_eq,
      isCompleteFrom_newline]
    rfl
  · rw [hb] at h
    have hline := lineComment_of_closed hopen h
    obtain ⟨v, rfl, rfl, hv⟩ := of_lineComment hline
    have hends : EndsInComment b := ⟨v, hu⟩
    have halone := hb []
    rw [List.append_nil, List.append_nil, isCompleteFrom_lineComment hline] at halone
    refine ⟨State.invalid.after (lexemes b).1, ?_, fun rest => ?_⟩
    · simp [hends, halone]
    · have hcomment := piece_of_line (v := v ++ [';']) (by simpa using hv) rest
      rw [hb, List.cons_append, List.append_cons v ';',
        (Reads.cons hcomment (.nil rest)).isCompleteFrom_eq, State.after_cons, State.after_nil,
        next_blank]

/-- A character outside of quotes that ends no statement: white space, a part of a word or a slash. -/
private def isLoose (c : Char) : Bool := Text.isBlank c || isWordChar c || c == '/'

private theorem Filler.mono {free free' : Char → Bool} (hfree : ∀ c, free c → free' c)
    (h : Filler free s) : Filler free' s := by
  induction h with
  | nil => exact .nil
  | char hc _ ih => exact .char (hfree _ hc) ih
  | block hu _ ih => exact .block hu ih
  | line hv _ ih => exact .line hv ih
  | lastLine hv => exact .lastLine hv

private theorem Filler.prepend (ha : ∀ c ∈ a, free c) (h : Filler free s) : Filler free (a ++ s) := by
  induction a with
  | nil => exact h
  | cons c a ih =>
    obtain ⟨hc, ha⟩ := List.forall_mem_cons.1 ha
    exact .char hc (ih ha)

private theorem Filler.dropWord (h : Filler free s) : Filler free (s.dropWhile isWordChar) := by
  induction h with
  | nil => exact .nil
  | char hc hr ih =>
    rw [List.dropWhile_cons]
    split
    · exact ih
    · exact .char hc hr
  | block hu hr => exact .block hu hr
  | line hv hr => exact .line hv hr
  | lastLine hv => exact .lastLine hv

/-- Loose characters and comments are read without a semicolon. -/
private theorem loose_token (h : Filler isLoose (c :: r)) (hp : piece c r = .token k l rest) :
    k ≠ .semicolon ∧ Filler isLoose rest := by
  cases h with
  | char hc hr =>
    have hmark (x : Char) (hx : isLoose x = false) : c ≠ x := by
      rintro rfl
      rw [hx] at hc
      cases hc
    unfold piece at hp
    split_ifs at hp with h1 h2 h3 h4 h5 h6 h7
    · exact absurd h1 (hmark _ (by decide))
    · obtain ⟨rfl, -, rfl⟩ := Piece.token.inj hp
      exact ⟨by decide, hr⟩
    · obtain ⟨u, rfl⟩ := List.head?_eq_some_iff.1 h3.2
      cases hr with
      | char hstar => exact absurd hstar (by decide)
    · exact absurd h4.1 (hmark _ (by decide))
    · exact absurd h5 (hmark _ (by decide))
    · rcases h6 with h6 | h6 | h6 <;> exact absurd h6 (hmark _ (by decide))
    · obtain ⟨rfl, -, rfl⟩ := Piece.token.inj hp
      exact ⟨(keyword_of_word _).1, hr.dropWord⟩
    · obtain ⟨rfl, -, rfl⟩ := Piece.token.inj hp
      exact ⟨by decide, hr⟩
  | block hu hr =>
    rw [piece_of_block hu] at hp
    obtain ⟨rfl, -, rfl⟩ := Piece.token.inj hp
    exact ⟨by decide, hr⟩
  | line hv hr =>
    rw [piece_of_line hv] at hp
    obtain ⟨rfl, -, rfl⟩ := Piece.token.inj hp
    exact ⟨by decide, hr⟩
  | lastLine hv =>
    rw [piece_line, through_eq_none.2 hv] at hp
    cases hp

private theorem not_isCompleteFrom (hq : q ≠ .start) (h : Filler isLoose s) :
    isCompleteFrom q s = false := by
  fun_induction isCompleteFrom q s with
  | case1 q => simpa using hq
  | case2 q c r k l rest hp ih =>
    obtain ⟨hk, hrest⟩ := loose_token h hp
    exact ih (next_ne_start hq fun hn => hk hn.1) hrest
  | case3 q c r hp => simpa using hq
  | case4 => rfl

private theorem lowerChar_ascii :
    ∀ n : Fin 128, isWordChar (Char.ofNat n) ∨ Text.lowerChar (Char.ofNat n) = [Char.ofNat n] := by
  decide +kernel

/-- What is no part of a word is no letter, and lower case leaves it as it is. -/
private theorem lowerChar_of_not_word (h : ¬ isWordChar c) : Text.lowerChar c = [c] := by
  have hascii : c.toNat < 128 := by
    by_contra hn
    exact h (by simp [isWordChar, Nat.le_of_not_lt hn])
  have hcases := lowerChar_ascii ⟨c.toNat, hascii⟩
  rw [Char.ofNat_toNat] at hcases
  exact hcases.resolve_left h

private theorem mem_lowerAfter (h : ¬ isWordChar c) (hmem : c ∈ s) (before : List Char) :
    c ∈ Text.lowerAfter before s := by
  induction s generalizing before with
  | nil => cases hmem
  | cons d s ih =>
    rw [Text.lowerAfter]
    rcases List.mem_cons.1 hmem with rfl | hmem
    · have hsigma : c ≠ Text.capitalSigma := by
        rintro rfl
        exact h (by decide)
      simp [hsigma, lowerChar_of_not_word h]
    · exact List.mem_append_right _ (ih hmem _)

/-- A line that ends a statement like a semicolon does is loose, comments aside. -/
private theorem loose_of_isTerminator (h : isTerminator line) : Filler isLoose line := by
  have hblank (c : Char) (hc : Text.isBlank c) : isLoose c := by simp [isLoose, hc]
  have hbehind {s : List Char} (hs : isBlank s) : Filler isLoose s := ((isBlank_iff s).1 hs).mono hblank
  rw [← List.takeWhile_append_dropWhile (p := Text.isBlank) (l := line)]
  refine .prepend (fun c hc => hblank c (List.mem_takeWhile_imp hc)) ?_
  rcases Bool.or_eq_true_iff.1 h with hslash | hgo
  · obtain ⟨hhead, hrest⟩ := Bool.and_eq_true_iff.1 hslash
    obtain ⟨s, hs⟩ := List.head?_eq_some_iff.1 (beq_iff_eq.1 hhead)
    rw [Text.trimLeft] at hs hrest
    rw [hs] at hrest ⊢
    exact .char (by decide) (hbehind hrest)
  · obtain ⟨hword, hrest⟩ := Bool.and_eq_true_iff.1 hgo
    rw [Text.trimLeft] at hword hrest
    rw [← List.take_append_drop 2 (line.dropWhile Text.isBlank)]
    refine .prepend (fun c hc => ?_) (hbehind hrest)
    have hlower : isWordChar c := by
      by_contra hn
      have hmem := mem_lowerAfter hn hc []
      rw [← Text.lower, beq_iff_eq.1 hword] at hmem
      rcases List.mem_pair.1 hmem with rfl | rfl <;> exact hn (by decide)
    simp [isLoose, hlower]

/-- A statement with a line comment at its end is not completed by a slash or the word GO as they
stand. -/
theorem not_isComplete_terminator (hline : isTerminator line) (hends : EndsInComment b)
    (hb : ¬ isComplete b) : ¬ isComplete (b ++ '\n' :: line) := by
  obtain ⟨v, hu⟩ := hends
  rcases isComplete_append b with ⟨hnil, -⟩ | ⟨c, r, hrest, hopen, hbehind⟩
  · rw [hnil] at hu
    cases hu
  · rw [hrest] at hu
    obtain ⟨rfl, rfl⟩ := List.cons.inj hu
    obtain ⟨hv, hcomment⟩ := lineComment_of_open hopen
    have halone := hbehind []
    rw [List.append_nil, List.append_nil, isCompleteFrom_lineComment hcomment] at halone
    rw [halone, beq_iff_eq] at hb
    have hread := Reads.cons (piece_of_line hv line) (.nil line)
    rw [hbehind, List.cons_append, hread.isCompleteFrom_eq, State.after_cons, State.after_nil,
      not_isCompleteFrom (next_ne_start hb (by simp)) (loose_of_isTerminator hline)]
    decide

end SqlConsole.Statement

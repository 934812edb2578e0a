import Mathlib.Tactic.ByContra
import SqlConsole.Proofs.Statement.Shape

/-! The tokens of a text, read once from left to right, and what the automaton makes of them. -/
namespace SqlConsole.Statement

private theorem open_ne_token {o : Piece} (ho : o = .unclosed ∨ o = .lineComment) {k : Token}
    {l r : List Char} : o ≠ .token k l r := by
  rcases ho with rfl | rfl <;> simp

theorem keyword_of_word (w : List Char) : keyword w ≠ .semicolon ∧ keyword w ≠ .blank := by
  unfold keyword
  split <;> simp

/-- No token goes on into this text: it starts with a semicolon or with a line end, or it is empty. -/
def Apart (v : List Char) : Prop := ∀ d ∈ v.head?, d = ';' ∨ d = '\n'

theorem apart_nil : Apart [] := by simp [Apart]

theorem apart_semicolon (v : List Char) : Apart (';' :: v) := by simp [Apart]

theorem apart_newline (v : List Char) : Apart ('\n' :: v) := by simp [Apart]

/-- A word does not go on into a text that starts like what follows a word, or that is apart. -/
private theorem wordless_of_head {s v : List Char}
    (h : v.head? = (s.dropWhile isWordChar).head? ∨ Apart v) :
    v.takeWhile isWordChar = [] ∧ v.dropWhile isWordChar = v := by
  cases v with
  | nil => exact ⟨rfl, rfl⟩
  | cons d u =>
    have hd : isWordChar d = false := by
      rcases h with h | h
      · have := List.head?_dropWhile_not isWordChar s
        rwa [← h] at this
      · rcases h d rfl with rfl | rfl <;> decide
    simp [hd]

/-- A token that ends before `rest` ends there as well where another text follows, as long as that
starts alike, or the token cannot go on into it. -/
theorem piece_of_rest {c : Char} {m rest rest' : List Char} {k : Token}
    (h : piece c (m ++ rest) = .token k (c :: m) rest)
    (hr : rest'.head? = rest.head? ∨ Apart rest') :
    piece c (m ++ rest') = .token k (c :: m) rest' := by
  rw [piece_eq_shape] at h ⊢
  cases hs : shape c (m ++ rest).head? with
  | single j =>
    rw [hs] at h
    simp only [Shape.piece, Piece.token.injEq, List.cons.injEq, true_and] at h
    obtain ⟨rfl, rfl, -⟩ := h
    have hs' : shape c rest'.head? = .single j := by
      rcases hr with hr | hr
      · rw [hr]; exact hs
      · refine (shape_single hs).2 _ ?_ ?_ <;> intro hd
        · exact absurd (hr '*' hd) (by decide)
        · exact absurd (hr '-' hd) (by decide)
    rw [List.nil_append, hs', Shape.piece]
  | fenced j lead f o =>
    obtain ⟨-, -, ho, hf, hl⟩ := shape_fenced hs
    rw [hs] at h
    simp only [Shape.piece] at h
    cases hx : f.find ((m ++ rest).drop lead.length) with
    | none => rw [hx] at h; exact absurd h (open_ne_token ho)
    | some p =>
      obtain ⟨a, b⟩ := p
      rw [hx] at h
      simp only [Piece.token.injEq, List.cons_append, List.cons.injEq, true_and] at h
      obtain ⟨rfl, rfl, rfl⟩ := h
      have ha : f.find (a ++ rest') = some (a, rest') := by
        simpa using find_extend (find_self hf hx).1 rest'
      have hs' : shape c (lead ++ a ++ rest').head? = .fenced j lead f o := by
        rcases hl with ⟨rfl, hl⟩ | ⟨d, rfl, hd, -⟩
        · rw [hl, hs]
        · rw [← hs, hd]; rfl
      rw [hs']
      simp [Shape.piece, ha]
  | word =>
    obtain ⟨-, hw⟩ := shape_word hs
    rw [hs] at h
    simp only [Shape.piece, Piece.token.injEq, List.cons.injEq, true_and] at h
    obtain ⟨hk, h1, h2⟩ := h
    have hm : ∀ x ∈ m, isWordChar x := by
      rw [← h1]
      exact List.all_eq_true.1 List.all_takeWhile
    have hn : rest'.takeWhile isWordChar = [] ∧ rest'.dropWhile isWordChar = rest' :=
      wordless_of_head (h2.symm ▸ hr)
    rw [h1] at hk
    rw [hw]
    simp [Shape.piece, List.takeWhile_append_of_pos hm, List.dropWhile_append_of_pos hm, hn, hk]

/-- Up to a semicolon inside a token, or after an end that is missing, the text is open. -/
theorem piece_of_inside {c : Char} {a b : List Char}
    (h : ∀ k m u, piece c (a ++ ';' :: b) = .token k (c :: m) u → ∃ t, m = a ++ ';' :: t) :
    piece c (a ++ [';']) = .unclosed ∨ piece c (a ++ [';']) = .lineComment := by
  rw [piece_eq_shape] at h ⊢
  cases hs : shape c (a ++ ';' :: b).head? with
  | single j =>
    rw [hs] at h
    obtain ⟨t, ht⟩ := h _ _ _ rfl
    simp at ht
  | word =>
    rw [hs] at h
    obtain ⟨t, ht⟩ := h _ _ _ rfl
    have := List.all_eq_true.1 (List.all_takeWhile (p := isWordChar) (l := a ++ ';' :: b)) ';'
      (by rw [ht]; simp)
    exact absurd this (by decide)
  | fenced j lead f o =>
    obtain ⟨-, -, ho, hf, hl⟩ := shape_fenced hs
    rw [hs] at h
    have hs' : shape c (a ++ [';']).head? = .fenced j lead f o ∧ ∃ a', a = lead ++ a' := by
      rcases hl with ⟨rfl, hl⟩ | ⟨d, rfl, hd, hne⟩
      · exact ⟨by rw [hl, hs], a, rfl⟩
      · cases a with
        | nil =>
          simp only [List.nil_append, List.head?_cons, Option.some.injEq] at hd
          exact absurd hd.symm hne
        | cons e a' =>
          simp only [List.cons_append, List.head?_cons, Option.some.injEq] at hd
          subst hd
          exact ⟨hs, a', rfl⟩
    obtain ⟨hs', a', rfl⟩ := hs'
    have hx : f.find (a' ++ [';']) = none := by
      cases hy : f.find (a' ++ ';' :: b) with
      | none => exact find_none (t := b) (by simpa using hy)
      | some p =>
        obtain ⟨l, u⟩ := p
        obtain ⟨t, ht⟩ := h j (lead ++ l) u (by simp [Shape.piece, hy])
        exact find_inside hf hy (by simpa using ht)
    rw [hs']
    simpa [Shape.piece, hx] using ho

theorem cons_of_piece {c : Char} {r l rest : List Char} {k : Token}
    (h : piece c r = .token k l rest) : ∃ m, l = c :: m ∧ r = m ++ rest := by
  have ha := append_of_piece h
  cases l with
  | nil => exact absurd rfl (ne_nil_of_piece h)
  | cons d m =>
    rw [List.cons_append, List.cons.injEq] at ha
    exact ⟨m, by rw [ha.1], ha.2.symm⟩

theorem piece_semicolon (r : List Char) : piece ';' r = .token .semicolon [';'] r := rfl

theorem semicolon_of_piece {c : Char} {r l rest : List Char}
    (h : piece c r = .token .semicolon l rest) : c = ';' ∧ l = [';'] ∧ rest = r := by
  have hc : c = ';' := by
    by_contra hc
    rw [piece_eq_shape] at h
    cases hs : shape c r.head? with
    | single j =>
      rw [hs] at h
      simp only [Shape.piece, Piece.token.injEq] at h
      exact hc ((shape_single hs).1.1 h.1)
    | fenced j lead f o =>
      obtain ⟨-, hk, ho, -⟩ := shape_fenced hs
      rw [hs] at h
      simp only [Shape.piece] at h
      split at h
      · exact hk (Piece.token.inj h).1
      · exact open_ne_token ho h
    | word =>
      rw [hs] at h
      simp only [Shape.piece, Piece.token.injEq] at h
      exact absurd h.1 (keyword_of_word _).1
  subst hc
  rw [piece_semicolon, Piece.token.injEq] at h
  exact ⟨rfl, h.2.1.symm, h.2.2.symm⟩

/-- A token of a text, as it is written there. -/
structure Lexeme where
  kind : Token
  text : List Char
  deriving DecidableEq, Repr

/-- The text that tokens make up. -/
def spelling (ts : List Lexeme) : List Char := ts.flatMap (·.text)

/-- The state that tokens lead to. -/
def State.after (q : State) (ts : List Lexeme) : State := ts.foldl (fun q t => q.next t.kind) q

@[simp] theorem spelling_nil : spelling [] = [] := rfl

@[simp] theorem spelling_cons (t : Lexeme) (ts : List Lexeme) :
    spelling (t :: ts) = t.text ++ spelling ts := List.flatMap_cons

@[simp] theorem spelling_append (ts us : List Lexeme) :
    spelling (ts ++ us) = spelling ts ++ spelling us := List.flatMap_append

@[simp] theorem State.after_nil (q : State) : q.after [] = q := rfl

@[simp] theorem State.after_cons (q : State) (t : Lexeme) (ts : List Lexeme) :
    q.after (t :: ts) = (q.next t.kind).after ts := rfl

@[simp] theorem State.after_append (q : State) (ts us : List Lexeme) :
    q.after (ts ++ us) = (q.after ts).after us := List.foldl_append

/-- The tokens of a text, and what is left where a quote, a bracket or a comment has no end. -/
def lexemes (s : List Char) : List Lexeme × List Char :=
  match s with
  | [] => ([], [])
  | c :: r =>
    match _h : piece c r with
    | .token k l rest => (⟨k, l⟩ :: (lexemes rest).1, (lexemes rest).2)
    | .lineComment => ([], c :: r)
    | .unclosed => ([], c :: r)
termination_by s.length
decreasing_by all_goals exact length_lt_of_piece _h

/-- Reading `s` from left to right gives the tokens `ts` in front of `u`. -/
inductive Reads : List Char → List Lexeme → List Char → Prop where
  | nil (s : List Char) : Reads s [] s
  | cons {c : Char} {r l rest u : List Char} {k : Token} {ts : List Lexeme}
      (hp : piece c r = .token k l rest) (hr : Reads rest ts u) : Reads (c :: r) (⟨k, l⟩ :: ts) u

namespace Reads
variable {s u v : List Char} {ts us : List Lexeme}

theorem spelling_eq (h : Reads s ts u) : spelling ts ++ u = s := by
  induction h with
  | nil => rfl
  | cons hp _ ih => rw [spelling_cons, List.append_assoc, ih, append_of_piece hp]

theorem eq_nil_of_spelling (h : Reads s ts u) (hs : spelling ts = []) : ts = [] := by
  cases h with
  | nil => rfl
  | cons hp _ =>
    rw [spelling_cons, List.append_eq_nil_iff] at hs
    exact absurd hs.1 (ne_nil_of_piece hp)

theorem trans (h : Reads s ts u) (h' : Reads u us v) : Reads s (ts ++ us) v := by
  induction h with
  | nil => exact h'
  | cons hp _ ih => exact .cons hp (ih h')

theorem split (h : Reads s (ts ++ us) u) : ∃ v, Reads s ts v ∧ Reads v us u := by
  induction ts generalizing s with
  | nil => exact ⟨s, .nil s, h⟩
  | cons t ts ih =>
    cases h with
    | cons hp hr =>
      obtain ⟨v, h1, h2⟩ := ih hr
      exact ⟨v, .cons hp h1, h2⟩

theorem isCompleteFrom_eq (h : Reads s ts u) (q : State) :
    isCompleteFrom q s = isCompleteFrom (q.after ts) u := by
  induction h generalizing q with
  | nil => rfl
  | cons hp _ ih =>
    rw [isCompleteFrom]
    split
    · rename_i hp'
      rw [hp, Piece.token.injEq] at hp'
      obtain ⟨rfl, rfl, rfl⟩ := hp'
      exact ih _
    · rename_i hp'; rw [hp] at hp'; cases hp'
    · rename_i hp'; rw [hp] at hp'; cases hp'

theorem isComplete_eq (h : Reads s ts []) : isComplete s = (State.invalid.after ts == .start) := by
  rw [isComplete, h.isCompleteFrom_eq, isCompleteFrom]

theorem lexemes_eq (h : Reads s ts u) : lexemes s = (ts ++ (lexemes u).1, (lexemes u).2) := by
  induction h with
  | nil => rfl
  | cons hp _ ih =>
    rw [lexemes]
    split
    · rename_i hp'
      rw [hp, Piece.token.injEq] at hp'
      obtain ⟨rfl, rfl, rfl⟩ := hp'
      rw [ih]; rfl
    · rename_i hp'; rw [hp] at hp'; cases hp'
    · rename_i hp'; rw [hp] at hp'; cases hp'

/-- Tokens stay tokens where another text follows, as long as that starts alike, or no token goes on
into it. -/
theorem of_rest (h : Reads s ts u) (hv : v.head? = u.head? ∨ Apart v) :
    Reads (spelling ts ++ v) ts v := by
  induction h with
  | nil => exact .nil v
  | @cons c r l rest u k ts hp hr ih =>
    obtain ⟨m, rfl, rfl⟩ := cons_of_piece hp
    rw [spelling_cons, List.append_assoc, List.cons_append]
    refine .cons (piece_of_rest hp ?_) (ih hv)
    rw [← hr.spelling_eq]
    cases spelling ts with
    | nil => exact hv
    | cons => exact Or.inl rfl

end Reads

theorem reads_lexemes (s : List Char) : Reads s (lexemes s).1 (lexemes s).2 := by
  fun_induction lexemes s with
  | case1 => exact .nil []
  | case2 c r k l rest hp ih => exact .cons hp ih
  | case3 c r hp => exact .nil _
  | case4 c r hp => exact .nil _

end SqlConsole.Statement

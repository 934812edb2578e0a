/-! Tokens of SQL text, as far as the end of a statement depends on them. -/
namespace SqlConsole.Statement

/-- What a token is for the end of a statement. -/
inductive Token where
  | semicolon
  /-- White space or a comment. -/
  | blank
  | other
  | explain
  | create
  | temporary
  | trigger
  | endWord
  deriving DecidableEq, Repr

def isSpace (c : Char) : Bool := c == ' ' || c == '\r' || c == '\t' || c == '\n' || c == '\x0c'

/-- A character of a word. Whatever is not ASCII belongs to words. -/
def isWordChar (c : Char) : Bool := c.isAlphanum || c == '_' || c == '$' || 128 ≤ c.toNat

def keyword (word : List Char) : Token :=
  match word.map Char.toLower with
  | ['e', 'x', 'p', 'l', 'a', 'i', 'n'] => .explain
  | ['c', 'r', 'e', 'a', 't', 'e'] => .create
  | ['t', 'e', 'm', 'p'] => .temporary
  | ['t', 'e', 'm', 'p', 'o', 'r', 'a', 'r', 'y'] => .temporary
  | ['t', 'r', 'i', 'g', 'g', 'e', 'r'] => .trigger
  | ['e', 'n', 'd'] => .endWord
  | _ => .other

/-- The text up to and with the first `stop`, and what follows it. -/
def through (stop : Char) : List Char → Option (List Char × List Char)
  | [] => none
  | c :: r => if c = stop then some ([c], r) else (through stop r).map fun (a, b) => (c :: a, b)

/-- The text up to and with the first end of a block comment, and what follows it. -/
def throughComment : List Char → Option (List Char × List Char)
  | [] => none
  | '*' :: '/' :: r => some (['*', '/'], r)
  | c :: r => (throughComment r).map fun (a, b) => (c :: a, b)

inductive Piece where
  /-- A token, and what follows it. -/
  | token (kind : Token) (lexeme rest : List Char)
  /-- A line comment without an end. -/
  | lineComment
  /-- A quote, a bracket or a block comment without an end. -/
  | unclosed
  deriving DecidableEq, Repr

/-- A token that starts with `start` and ends where the split of what follows it says. -/
private def Piece.closing (kind : Token) (start : List Char) (otherwise : Piece) :
    Option (List Char × List Char) → Piece
  | some (a, b) => .token kind (start ++ a) b
  | none => otherwise

def piece (c : Char) (r : List Char) : Piece :=
  if c = ';' then .token .semicolon [c] r
  else if isSpace c then .token .blank [c] r
  else if c = '/' ∧ r.head? = some '*' then
    .closing .blank [c, '*'] .unclosed (throughComment (r.drop 1))
  else if c = '-' ∧ r.head? = some '-' then
    .closing .blank [c, '-'] .lineComment (through '\n' (r.drop 1))
  else if c = '[' then .closing .other [c] .unclosed (through ']' r)
  else if c = '\x27' ∨ c = '"' ∨ c = '\x60' then .closing .other [c] .unclosed (through c r)
  else if isWordChar c then
    let word := c :: r.takeWhile isWordChar
    .token (keyword word) word (r.dropWhile isWordChar)
  else .token .other [c] r

theorem append_of_through {stop : Char} {s a b : List Char}
    (h : through stop s = some (a, b)) : a ++ b = s := by
  fun_induction through stop s generalizing a with
  | case1 => simp at h
  | case2 r => simp only [Option.some.injEq, Prod.mk.injEq] at h; simp [← h.1, ← h.2]
  | case3 c r hc ih =>
    obtain ⟨⟨a', b'⟩, hx, he⟩ := Option.map_eq_some_iff.1 h
    simp only [Prod.mk.injEq] at he
    simp [← he.1, ih (he.2 ▸ hx)]

theorem append_of_throughComment {s a b : List Char}
    (h : throughComment s = some (a, b)) : a ++ b = s := by
  fun_induction throughComment s generalizing a with
  | case1 => simp at h
  | case2 r => simp only [Option.some.injEq, Prod.mk.injEq] at h; simp [← h.1, ← h.2]
  | case3 c r _ ih =>
    obtain ⟨⟨a', b'⟩, hx, he⟩ := Option.map_eq_some_iff.1 h
    simp only [Prod.mk.injEq] at he
    simp [← he.1, ih (he.2 ▸ hx)]

private theorem append_of_closing {kind k : Token} {start l rest s : List Char} {p : Piece}
    {found : Option (List Char × List Char)} (hp : ∀ k l rest, p ≠ .token k l rest)
    (hf : ∀ a b, found = some (a, b) → a ++ b = s)
    (h : Piece.closing kind start p found = .token k l rest) : l ++ rest = start ++ s := by
  match found, h with
  | none, h => exact absurd h (hp k l rest)
  | some (a, b), h =>
    simp only [Piece.closing, Piece.token.injEq] at h
    rw [← h.2.1, ← h.2.2, List.append_assoc, hf a b rfl]

private theorem cons_drop_of_head? {d : Char} {r : List Char} (h : r.head? = some d) :
    d :: r.drop 1 = r := by
  cases r <;> simp_all

/-- Nothing of the text is lost: the token and the rest make up the whole. -/
theorem append_of_piece {c : Char} {r l rest : List Char} {k : Token}
    (h : piece c r = .token k l rest) : l ++ rest = c :: r := by
  unfold piece at h
  split at h
  · simp only [Piece.token.injEq] at h; simp [← h.2.1, ← h.2.2]
  split at h
  · simp only [Piece.token.injEq] at h; simp [← h.2.1, ← h.2.2]
  split at h
  · rename_i hc
    have := append_of_closing (by simp) (fun _ _ => append_of_throughComment) h
    rwa [List.cons_append, List.cons_append, List.nil_append, cons_drop_of_head? hc.2] at this
  split at h
  · rename_i hc
    have := append_of_closing (by simp) (fun _ _ => append_of_through) h
    rwa [List.cons_append, List.cons_append, List.nil_append, cons_drop_of_head? hc.2] at this
  split at h
  · simpa using append_of_closing (by simp) (fun _ _ => append_of_through) h
  split at h
  · simpa using append_of_closing (by simp) (fun _ _ => append_of_through) h
  split at h
  · simp only [Piece.token.injEq] at h
    rw [← h.2.1, ← h.2.2, List.cons_append, List.takeWhile_append_dropWhile]
  · simp only [Piece.token.injEq] at h; simp [← h.2.1, ← h.2.2]

private theorem closing_ne_nil {kind k : Token} {start l rest : List Char} {p : Piece}
    {found : Option (List Char × List Char)} (hp : ∀ k l rest, p ≠ .token k l rest)
    (hs : start ≠ []) (h : Piece.closing kind start p found = .token k l rest) : l ≠ [] := by
  match found, h with
  | none, h => exact absurd h (hp k l rest)
  | some (a, b), h =>
    simp only [Piece.closing, Piece.token.injEq] at h
    rw [← h.2.1]; simp [hs]

theorem ne_nil_of_piece {c : Char} {r l rest : List Char} {k : Token}
    (h : piece c r = .token k l rest) : l ≠ [] := by
  unfold piece at h
  split at h
  · simp only [Piece.token.injEq] at h; simp [← h.2.1]
  split at h
  · simp only [Piece.token.injEq] at h; simp [← h.2.1]
  split at h
  · exact closing_ne_nil (by simp) (by simp) h
  split at h
  · exact closing_ne_nil (by simp) (by simp) h
  split at h
  · exact closing_ne_nil (by simp) (by simp) h
  split at h
  · exact closing_ne_nil (by simp) (by simp) h
  split at h <;> simp only [Piece.token.injEq] at h <;> simp [← h.2.1]

theorem length_lt_of_piece {c : Char} {r l rest : List Char} {k : Token}
    (h : piece c r = .token k l rest) : rest.length < (c :: r).length := by
  have := congrArg List.length (append_of_piece h)
  have := List.length_pos_iff.2 (ne_nil_of_piece h)
  simp only [List.length_append] at *; omega

end SqlConsole.Statement

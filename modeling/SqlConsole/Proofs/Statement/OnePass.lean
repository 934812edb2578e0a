import SqlConsole.Proofs.Statement.Lexeme
import SqlConsole.Statement.Split

/-! Splitting a text in one pass over its tokens, and that the search for the shortest complete start
gives the same parts. -/
namespace SqlConsole.Statement

/-- Cuts after each semicolon that ends a statement. The part that is being read has come to `q` and
holds `held` so far; what follows the last cut is a part as well, unless it is empty. -/
def cuts (q : State) (held : List Char) : List Lexeme → List Char → List (List Char)
  | [], rest => if held ++ rest = [] then [] else [held ++ rest]
  | t :: ts, rest =>
    if t.kind = .semicolon ∧ q.next t.kind = .start then
      (held ++ t.text) :: cuts .invalid [] ts rest
    else cuts (q.next t.kind) (held ++ t.text) ts rest

/-- The parts of a text whose tokens are read once. -/
def onePass (s : List Char) : List (List Char) := cuts .invalid [] (lexemes s).1 (lexemes s).2

/-- Only a semicolon leads to a place between statements. -/
theorem next_ne_start {q : State} {k : Token} (hq : q ≠ .start) (h : ¬ (k = .semicolon ∧ q.next k = .start)) :
    q.next k ≠ .start := by
  cases q <;> cases k <;> simp_all [State.next]

/-- The search passes over text in which no semicolon completes a statement. -/
private theorem firstFrom_skip {l : List Char} (before rest : List Char)
    (h : ∀ a b, l = a ++ ';' :: b → isComplete (before.reverse ++ a ++ [';']) = false) :
    firstFrom before (l ++ rest) = firstFrom (l.reverse ++ before) rest := by
  induction l generalizing before with
  | nil => rfl
  | cons c l ih =>
    have hc : ¬ (c = ';' ∧ isComplete (before.reverse ++ [';'])) := by
      rintro ⟨rfl, hx⟩
      have := h [] l rfl
      simp only [List.append_nil] at this
      rw [this] at hx
      cases hx
    rw [List.cons_append, firstFrom, if_neg hc, ih]
    · simp
    · intro a b hl
      have := h (c :: a) b (by rw [hl]; rfl)
      simpa using this

/-- What is judged of a text up to a semicolon ahead only depends on the state so far. -/
private theorem isComplete_upTo {before s a b : List Char} {ts : List Lexeme}
    (hr : Reads (before.reverse ++ s) ts s) (hs : s = a ++ ';' :: b) :
    isComplete (before.reverse ++ a ++ [';']) =
      isCompleteFrom (State.invalid.after ts) (a ++ [';']) := by
  have hb : spelling ts = before.reverse := List.append_cancel_right hr.spelling_eq
  have hv : (a ++ [';']).head? = s.head? := by
    rw [hs]
    cases a <;> rfl
  have := hr.of_rest (Or.inl hv)
  rw [hb, ← List.append_assoc] at this
  exact this.isCompleteFrom_eq .invalid

theorem isCompleteFrom_semicolon (q : State) :
    isCompleteFrom q [';'] = (q.next .semicolon == .start) := by
  rw [(Reads.cons (piece_semicolon []) (.nil [])).isCompleteFrom_eq, isCompleteFrom]
  rfl

/-- A text that ends inside a token is not complete, not even in a line comment. -/
private theorem isCompleteFrom_inside {q : State} {c : Char} {a b : List Char} (hq : q ≠ .start)
    (h : ∀ k m u, piece c (a ++ ';' :: b) = .token k (c :: m) u → ∃ t, m = a ++ ';' :: t) :
    isCompleteFrom q (c :: (a ++ [';'])) = false := by
  rw [isCompleteFrom]
  rcases piece_of_inside h with hp | hp
  · split
    · rename_i hp'; rw [hp] at hp'; cases hp'
    · rename_i hp'; rw [hp] at hp'; cases hp'
    · rfl
  · split
    · rename_i hp'; rw [hp] at hp'; cases hp'
    · simpa using hq
    · rfl

private theorem firstFrom_token {before l rest r : List Char} {c : Char} {k : Token}
    {ts : List Lexeme} (hp : piece c r = .token k l rest)
    (hr : Reads (before.reverse ++ c :: r) ts (c :: r)) (hq : State.invalid.after ts ≠ .start)
    (hk : ¬ (k = .semicolon ∧ (State.invalid.after ts).next k = .start)) :
    firstFrom before (c :: r) = firstFrom (l.reverse ++ before) rest := by
  obtain ⟨m, rfl, rfl⟩ := cons_of_piece hp
  refine firstFrom_skip (l := c :: m) before rest fun a b hl => ?_
  rw [isComplete_upTo (b := b ++ rest) hr (by rw [← List.cons_append, hl]; simp)]
  cases a with
  | nil =>
    obtain ⟨rfl, rfl⟩ := List.cons.inj hl
    rw [piece_semicolon, Piece.token.injEq] at hp
    rw [List.nil_append, isCompleteFrom_semicolon, beq_eq_false_iff_ne]
    exact fun hx => hk ⟨hp.1.symm, hp.1 ▸ hx⟩
  | cons d a =>
    simp only [List.cons_append, List.cons.injEq] at hl
    obtain ⟨rfl, rfl⟩ := hl
    refine isCompleteFrom_inside (b := b ++ rest) hq fun j n u hx => ⟨b, ?_⟩
    rw [List.append_assoc, List.cons_append, hx] at hp
    exact (List.cons.inj (Piece.token.inj hp).2.1).2

private theorem firstFrom_open {before r : List Char} {c : Char} {ts : List Lexeme}
    (hp : ∀ k l rest, piece c r ≠ .token k l rest)
    (hr : Reads (before.reverse ++ c :: r) ts (c :: r)) (hq : State.invalid.after ts ≠ .start) :
    firstFrom before (c :: r) = none := by
  rw [← List.append_nil (c :: r), firstFrom_skip before [], firstFrom]
  intro a b hl
  rw [isComplete_upTo hr hl]
  cases a with
  | nil =>
    obtain ⟨rfl, -⟩ := List.cons.inj hl
    exact absurd (piece_semicolon r) (hp _ _ _)
  | cons d a =>
    obtain ⟨rfl, rfl⟩ := List.cons.inj hl
    exact isCompleteFrom_inside hq fun k m u hx => absurd hx (hp _ _ _)

/-- The search and the one pass find the same next cut. -/
private theorem firstFrom_cuts {before s : List Char} {ts : List Lexeme}
    (hr : Reads (before.reverse ++ s) ts s) (hq : State.invalid.after ts ≠ .start) :
    cuts (State.invalid.after ts) before.reverse (lexemes s).1 (lexemes s).2 =
      match firstFrom before s with
      | some (a, b) => a :: onePass b
      | none => if before.reverse ++ s = [] then [] else [before.reverse ++ s] := by
  fun_induction lexemes s generalizing before ts with
  | case1 => simp [firstFrom, cuts]
  | case2 c r k l rest hp ih =>
    rw [cuts]
    split
    · rename_i hcut
      obtain ⟨rfl, hcut⟩ := hcut
      obtain ⟨rfl, rfl, rfl⟩ := semicolon_of_piece hp
      have hjudge := isComplete_upTo hr (a := []) rfl
      rw [List.append_nil, List.nil_append, isCompleteFrom_semicolon, hcut] at hjudge
      rw [firstFrom, if_pos ⟨rfl, by simpa using hjudge⟩]
      rfl
    · rename_i hcut
      have hread : Reads ((l.reverse ++ before).reverse ++ rest) (ts ++ [⟨k, l⟩]) rest := by
        have := hr.trans (.cons hp (.nil rest))
        rw [← append_of_piece hp] at this
        simpa using this
      have hstep : State.invalid.after (ts ++ [⟨k, l⟩]) = (State.invalid.after ts).next k := by simp
      have := ih hread (hstep ▸ next_ne_start hq hcut)
      rw [firstFrom_token hp hr hq hcut, ← append_of_piece hp]
      simpa [hstep] using this
  | case3 c r hp => simp [firstFrom_open (by simp [hp]) hr hq, cuts]
  | case4 c r hp => simp [firstFrom_open (by simp [hp]) hr hq, cuts]

/-- Repeated search for the shortest complete start finds the parts of the one pass. -/
theorem parts_eq_cuts (s : List Char) : parts s = onePass s := by
  fun_induction parts s with
  | case1 => simp [onePass, lexemes, cuts]
  | case2 c r ih =>
    have h := @firstFrom_cuts [] (c :: r) [] (.nil _) (by simp)
    simp only [List.reverse_nil, List.nil_append, State.after_nil] at h
    rw [ih, show onePass (c :: r) = _ from h]
    unfold first
    cases hx : firstFrom [] (c :: r) with
    | none => simp [onePass, lexemes, cuts]
    | some p => rfl

theorem parts_of_reads {s : List Char} {ts : List Lexeme} (h : Reads s ts []) :
    parts s = cuts .invalid [] ts [] := by
  rw [parts_eq_cuts, onePass, h.lexemes_eq]
  simp [lexemes]

/-- A part in front of another one is made of whole tokens, the last of them the semicolon that
ends its statement. Here `own` are tokens that the first part holds already. -/
private theorem tokens_of_cuts {own ts : List Lexeme} {rest p : List Char} {ps qs : List (List Char)}
    (h : cuts (State.invalid.after own) (spelling own) ts rest = ps ++ p :: qs) (hq : qs ≠ []) :
    ∃ pre mid last post, own ++ ts = pre ++ (mid ++ last :: post) ∧ spelling pre = ps.flatten ∧
      spelling (mid ++ [last]) = p ∧ last.kind = .semicolon ∧
      (State.invalid.after mid).next .semicolon = .start := by
  induction ts generalizing own ps with
  | nil =>
    rw [cuts] at h
    split at h
    · simp at h
    · obtain ⟨-, -, rfl⟩ | ⟨-, h, -⟩ := List.singleton_eq_append_iff.1 h
      simp_all
  | cons t ts ih =>
    rw [cuts] at h
    split at h
    · rename_i hcut
      cases ps with
      | nil =>
        obtain ⟨hp, -⟩ := List.cons.inj h
        refine ⟨[], own, t, ts, by simp, by simp, by simpa using hp, hcut.1, hcut.1 ▸ hcut.2⟩
      | cons x ps =>
        obtain ⟨rfl, htail⟩ := List.cons.inj h
        obtain ⟨pre, mid, last, post, he, hs, hrest⟩ := @ih [] ps htail
        refine ⟨own ++ t :: pre, mid, last, post, ?_, ?_, hrest⟩
        · rw [List.nil_append] at he
          simp [he]
        · simp [hs]
    · have hown := @ih (own ++ [t]) ps (by simpa using h)
      simpa using hown

/-- A semicolon here belongs to the definition of a trigger. -/
def State.inTrigger : State → Bool
  | .triggerBody | .triggerSemicolon => true
  | _ => false

private theorem not_inTrigger {q : State} (h : q.next .semicolon = .start) : q.inTrigger = false := by
  cases q <;> simp_all [State.next, State.inTrigger]

/-- What a part in front of another one is: tokens of the whole text, that are the tokens of the part
by itself as well, with the semicolon that ends the statement last. -/
theorem lexemes_of_part {s p : List Char} {ps qs : List (List Char)}
    (h : parts s = ps ++ p :: qs) (hq : qs ≠ []) :
    ∃ pre own post, (lexemes s).1 = pre ++ (own ++ ⟨.semicolon, [';']⟩ :: post) ∧
      spelling pre = ps.flatten ∧ lexemes p = (own ++ [⟨.semicolon, [';']⟩], []) ∧
      (State.invalid.after own).next .semicolon = .start := by
  rw [parts_eq_cuts] at h
  obtain ⟨pre, own, ⟨k, l⟩, post, he, hs, rfl, rfl, hn⟩ := @tokens_of_cuts [] _ _ _ _ _ h hq
  rw [List.nil_append] at he
  obtain ⟨v, -, hv⟩ := (he ▸ reads_lexemes s).split
  obtain ⟨w, ho, hw⟩ := hv.split
  cases hw with
  | cons hp hr =>
    obtain ⟨rfl, rfl, rfl⟩ := semicolon_of_piece hp
    have hall := (ho.trans (.cons hp (.nil _))).of_rest (v := []) (Or.inr apart_nil)
    rw [List.append_nil] at hall
    refine ⟨pre, own, post, he, hs, ?_, hn⟩
    rw [hall.lexemes_eq]
    simp [lexemes]

/-- The first of several statements is read as its own tokens, and the text after it is what is left
then. -/
theorem reads_first {c : Char} {r a b : List Char} (h : first (c :: r) = (a, b)) (hb : b ≠ []) :
    ∃ own, Reads (c :: r) (own ++ [⟨.semicolon, [';']⟩]) b ∧
      lexemes a = (own ++ [⟨.semicolon, [';']⟩], []) ∧
      (State.invalid.after own).next .semicolon = .start := by
  have happ : a ++ b = c :: r := by rw [← first_append (c :: r), h]
  have hparts : parts (c :: r) = [] ++ a :: parts b := by rw [parts, h]; rfl
  have hne : parts b ≠ [] := by
    obtain ⟨d, u, rfl⟩ := List.exists_cons_of_ne_nil hb
    rw [parts]
    simp
  obtain ⟨pre, own, post, hl, hpre, ha, hnext⟩ := lexemes_of_part hparts hne
  have hread := hl ▸ reads_lexemes (c :: r)
  obtain ⟨v, hr, -⟩ := hread.split
  obtain rfl := hr.eq_nil_of_spelling hpre
  rw [List.nil_append, List.append_cons] at hread
  obtain ⟨v, hr, -⟩ := hread.split
  have hsa : spelling (own ++ [⟨.semicolon, [';']⟩]) = a := by
    have := (reads_lexemes a).spelling_eq
    rwa [ha, List.append_nil] at this
  obtain rfl : v = b := by
    have := hr.spelling_eq
    rw [hsa, ← happ] at this
    exact List.append_cancel_left this
  exact ⟨own, hr, ha, hnext⟩

/-- The tokens of a text are the tokens of its parts. -/
theorem lexemes_eq_flatMap_parts (s : List Char) :
    (lexemes s).1 = (parts s).flatMap fun p => (lexemes p).1 := by
  fun_induction parts s with
  | case1 => simp [lexemes]
  | case2 c r ih =>
    rcases hf : first (c :: r) with ⟨a, b⟩
    rw [hf] at ih
    rw [List.flatMap_cons, ← ih]
    by_cases hb : b = []
    · have happ : a ++ b = c :: r := by rw [← first_append (c :: r), hf]
      rw [hb, List.append_nil] at happ
      simp [hb, happ, lexemes]
    · obtain ⟨own, hr, ha, -⟩ := reads_first hf hb
      rw [hr.lexemes_eq, ha]

/-- Splitting by search is splitting in one pass. Nothing of the text is lost, and every cut lies
behind a semicolon that is a token of its own, in no literal, comment or definition of a trigger. -/
theorem parts_one_pass (s : List Char) :
    parts s = onePass s ∧ (parts s).flatten = s ∧
      ∀ ps p qs, parts s = ps ++ p :: qs → qs ≠ [] →
        ∃ pre own post, (lexemes s).1 = pre ++ (own ++ ⟨.semicolon, [';']⟩ :: post) ∧
          spelling pre = ps.flatten ∧ lexemes p = (own ++ [⟨.semicolon, [';']⟩], []) ∧
          (State.invalid.after own).inTrigger = false := by
  refine ⟨parts_eq_cuts s, flatten_parts s, fun ps p qs h hq => ?_⟩
  obtain ⟨pre, own, post, he, hs, hp, hn⟩ := lexemes_of_part h hq
  exact ⟨pre, own, post, he, hs, hp, not_inTrigger hn⟩

end SqlConsole.Statement

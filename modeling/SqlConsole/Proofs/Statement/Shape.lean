import Mathlib.Data.List.Infix
import Mathlib.Tactic.SplitIfs
import SqlConsole.Statement.Complete

/-! The first two characters of a text settle what sort of token it starts with. How the token reads
when the text after it changes follows from that sort alone. -/
namespace SqlConsole.Statement

/-- The end that a quote, a bracket or a comment has. -/
inductive Fence where
  | upTo (stop : Char)
  | blockEnd

def Fence.find : Fence → List Char → Option (List Char × List Char)
  | .upTo stop => through stop
  | .blockEnd => throughComment

/-- The sorts of tokens. A fenced one starts with `lead` after its first character; without its end
the text is `open_` there. -/
inductive Shape where
  | single (kind : Token)
  | fenced (kind : Token) (lead : List Char) (fence : Fence) (open_ : Piece)
  | word

/-- The sort of a token that starts with `c`, where `next?` comes after it. -/
def shape (c : Char) (next? : Option Char) : Shape :=
  if c = ';' then .single .semicolon
  else if isSpace c then .single .blank
  else if c = '/' ∧ next? = some '*' then .fenced .blank ['*'] .blockEnd .unclosed
  else if c = '-' ∧ next? = some '-' then .fenced .blank ['-'] (.upTo '\n') .lineComment
  else if c = '[' then .fenced .other [] (.upTo ']') .unclosed
  else if c = '\x27' ∨ c = '"' ∨ c = '\x60' then .fenced .other [] (.upTo c) .unclosed
  else if isWordChar c then .word
  else .single .other

/-- The piece that a sort of token gives. -/
def Shape.piece (c : Char) (r : List Char) : Shape → Piece
  | .single k => .token k [c] r
  | .fenced k lead fence open_ =>
    match fence.find (r.drop lead.length) with
    | some (a, b) => .token k (c :: lead ++ a) b
    | none => open_
  | .word => .token (keyword (c :: r.takeWhile isWordChar)) (c :: r.takeWhile isWordChar)
      (r.dropWhile isWordChar)

theorem piece_eq_shape (c : Char) (r : List Char) : piece c r = (shape c r.head?).piece c r := by
  unfold piece shape
  split_ifs <;> rfl

theorem piece_block (r : List Char) : piece '/' ('*' :: r) =
    match throughComment r with
    | some (a, b) => .token .blank ('/' :: '*' :: a) b
    | none => .unclosed := piece_eq_shape '/' ('*' :: r)

theorem piece_line (r : List Char) : piece '-' ('-' :: r) =
    match through '\n' r with
    | some (a, b) => .token .blank ('-' :: '-' :: a) b
    | none => .lineComment := piece_eq_shape '-' ('-' :: r)

/-- What can only make a token longer is the second character of what starts a comment. -/
theorem shape_single {c : Char} {next? : Option Char} {k : Token} (h : shape c next? = .single k) :
    (k = .semicolon ↔ c = ';') ∧ ∀ n, n ≠ some '*' → n ≠ some '-' → shape c n = .single k := by
  unfold shape at h
  split_ifs at h with h1 h2 h3 h4 h5 h6 h7 <;> obtain rfl := Shape.single.inj h
  · exact ⟨by simp [h1], fun n _ _ => by rw [shape, if_pos h1]⟩
  · exact ⟨by simp [h1], fun n _ _ => by rw [shape, if_neg h1, if_pos h2]⟩
  · exact ⟨by simp [h1], fun n hs hl => by simp [shape, h1, h2, h5, h6, h7, hs, hl]⟩

/-- A fenced token starts with one character that never starts anything else, or with two. -/
theorem shape_fenced {c : Char} {next? : Option Char} {k : Token} {lead : List Char} {f : Fence}
    {o : Piece} (h : shape c next? = .fenced k lead f o) :
    c ≠ ';' ∧ k ≠ .semicolon ∧ (o = .unclosed ∨ o = .lineComment) ∧ f ≠ .upTo ';' ∧
      ((lead = [] ∧ ∀ n, shape c n = shape c next?) ∨ ∃ d, lead = [d] ∧ next? = some d ∧ d ≠ ';') := by
  have hs := h
  unfold shape at h
  split_ifs at h with h1 h2 h3 h4 h5 h6 h7 <;>
    simp only [Shape.fenced.injEq] at h
  · obtain ⟨rfl, rfl, rfl, rfl⟩ := h
    simp [h3]
  · obtain ⟨rfl, rfl, rfl, rfl⟩ := h
    simp [h4]
  · obtain ⟨rfl, rfl, rfl, rfl⟩ := h
    subst h5
    simp [shape, isSpace]
  · obtain ⟨rfl, rfl, rfl, rfl⟩ := h
    rcases h6 with rfl | rfl | rfl <;> simp [shape, isSpace]

theorem shape_word {c : Char} {next? : Option Char} (h : shape c next? = .word) :
    isWordChar c ∧ ∀ n, shape c n = .word := by
  have hw : isWordChar c := by
    unfold shape at h
    split_ifs at h with h1 h2 h3 h4 h5 h6 h7
    exact h7
  have hc : c ≠ '/' ∧ c ≠ '-' := by
    constructor <;> rintro rfl <;> exact absurd hw (by decide)
  unfold shape at h ⊢
  split_ifs at h
  simp_all

/-- What is found ends with the first `stop`. -/
theorem through_eq_some {stop : Char} {s a b : List Char} :
    through stop s = some (a, b) ↔ ∃ v, stop ∉ v ∧ a = v ++ [stop] ∧ s = v ++ stop :: b := by
  induction s generalizing a with
  | nil => simp [through]
  | cons c r ih =>
    rw [through]
    split
    · rename_i hc
      subst hc
      constructor
      · intro h
        simp only [Option.some.injEq, Prod.mk.injEq] at h
        exact ⟨[], by simp, h.1.symm, by rw [h.2]; rfl⟩
      · rintro ⟨v, hv, rfl, hs⟩
        cases v with
        | nil => rw [(List.cons.inj hs).2]; rfl
        | cons d v => simp [(List.cons.inj hs).1] at hv
    · rename_i hc
      constructor
      · intro h
        obtain ⟨⟨a', b'⟩, hx, he⟩ := Option.map_eq_some_iff.1 h
        simp only [Prod.mk.injEq] at he
        obtain ⟨v, hv, rfl, hs⟩ := ih.1 (he.2 ▸ hx)
        exact ⟨c :: v, by simp [hv, Ne.symm hc], he.1.symm, congrArg (c :: ·) hs⟩
      · rintro ⟨v, hv, rfl, hs⟩
        cases v with
        | nil => exact absurd (List.cons.inj hs).1 hc
        | cons d v =>
          obtain ⟨rfl, hr⟩ := List.cons.inj hs
          rw [ih.2 ⟨v, fun hx => hv (List.mem_cons_of_mem c hx), rfl, hr⟩]
          rfl

theorem through_eq_none {stop : Char} {s : List Char} : through stop s = none ↔ stop ∉ s := by
  induction s with
  | nil => simp [through]
  | cons c r ih =>
    rw [through]
    split
    · rename_i hc
      simp [hc]
    · rename_i hc
      simp [ih, Ne.symm hc]

/-- These characters, with a `*` behind them, hold no end of a block comment. -/
def NoEnd (u : List Char) : Prop := ¬ ['*', '/'] <:+: u ++ ['*']

theorem NoEnd.nil : NoEnd [] := by
  unfold NoEnd
  decide

theorem NoEnd.of_cons {c : Char} {u : List Char} (h : NoEnd (c :: u)) : NoEnd u :=
  fun hi => h (List.infix_cons hi)

theorem NoEnd.cons {c : Char} {u r : List Char} (hu : NoEnd u)
    (hc : ∀ t, c = '*' → u ++ '*' :: r = '/' :: t → False) : NoEnd (c :: u) := by
  intro hi
  rcases List.infix_cons_iff.1 hi with hp | hi
  · obtain ⟨hs, hp⟩ := List.cons_prefix_cons.1 hp
    cases u with
    | nil => simp at hp
    | cons d u =>
      obtain ⟨hd, -⟩ := List.cons_prefix_cons.1 hp
      exact hc _ hs.symm (by rw [← hd]; rfl)
  · exact hu hi

theorem NoEnd.not_end {u t : List Char} (h : NoEnd ('*' :: u)) {r : List Char} :
    u ++ '*' :: r ≠ '/' :: t := by
  intro hs
  cases u with
  | nil => cases hs
  | cons d u =>
    obtain ⟨rfl, -⟩ := List.cons.inj hs
    exact h ⟨[], u ++ ['*'], rfl⟩

/-- What is found ends with the first end of a block comment. -/
theorem throughComment_eq_some {s a b : List Char} :
    throughComment s = some (a, b) ↔
      ∃ u, NoEnd u ∧ a = u ++ ['*', '/'] ∧ s = u ++ '*' :: '/' :: b := by
  fun_induction throughComment s generalizing a with
  | case1 => simp
  | case2 r =>
    constructor
    · intro h
      simp only [Option.some.injEq, Prod.mk.injEq] at h
      exact ⟨[], .nil, h.1.symm, by rw [h.2]; rfl⟩
    · rintro ⟨u, hu, rfl, hs⟩
      cases u with
      | nil => rw [(List.cons.inj (List.cons.inj hs).2).2]; rfl
      | cons d u =>
        obtain ⟨rfl, hr⟩ := List.cons.inj hs
        exact absurd hr.symm hu.not_end
  | case3 c r hc ih =>
    constructor
    · intro h
      obtain ⟨⟨a', b'⟩, hx, he⟩ := Option.map_eq_some_iff.1 h
      simp only [Prod.mk.injEq] at he
      obtain ⟨u, hu, rfl, hs⟩ := ih.1 (he.2 ▸ hx)
      exact ⟨c :: u, hu.cons fun t h1 h2 => hc t h1 (hs.trans h2), he.1.symm,
        congrArg (c :: ·) hs⟩
    · rintro ⟨u, hu, rfl, hs⟩
      cases u with
      | nil =>
        obtain ⟨rfl, hr⟩ := List.cons.inj hs
        exact (hc _ rfl hr).elim
      | cons d u =>
        obtain ⟨rfl, hr⟩ := List.cons.inj hs
        rw [ih.2 ⟨u, hu.of_cons, rfl, hr⟩]
        rfl

private theorem through_extend {stop : Char} {s a b : List Char} (h : through stop s = some (a, b))
    (t : List Char) : through stop (s ++ t) = some (a, b ++ t) := by
  obtain ⟨v, hv, rfl, rfl⟩ := through_eq_some.1 h
  exact through_eq_some.2 ⟨v, hv, rfl, by simp⟩

private theorem throughComment_extend {s a b : List Char} (h : throughComment s = some (a, b))
    (t : List Char) : throughComment (s ++ t) = some (a, b ++ t) := by
  obtain ⟨u, hu, rfl, rfl⟩ := throughComment_eq_some.1 h
  exact throughComment_eq_some.2 ⟨u, hu, rfl, by simp⟩

/-- Text behind an end that has been found does not matter. -/
theorem find_extend {f : Fence} {s a b : List Char} (h : f.find s = some (a, b)) (t : List Char) :
    f.find (s ++ t) = some (a, b ++ t) := by
  cases f with
  | upTo stop => exact through_extend h t
  | blockEnd => exact throughComment_extend h t

private theorem through_self {stop : Char} {s a b : List Char} (h : through stop s = some (a, b)) :
    through stop a = some (a, []) ∧ a.getLast? = some stop := by
  obtain ⟨v, hv, rfl, rfl⟩ := through_eq_some.1 h
  exact ⟨through_eq_some.2 ⟨v, hv, rfl, rfl⟩, by simp⟩

private theorem throughComment_self {s a b : List Char} (h : throughComment s = some (a, b)) :
    throughComment a = some (a, []) ∧ a.getLast? = some '/' := by
  obtain ⟨u, hu, rfl, rfl⟩ := throughComment_eq_some.1 h
  exact ⟨throughComment_eq_some.2 ⟨u, hu, rfl, rfl⟩, by simp⟩

/-- The end is found in what was read up to it, and it is the last character there. -/
theorem find_self {f : Fence} (hf : f ≠ .upTo ';') {s a b : List Char}
    (h : f.find s = some (a, b)) : f.find a = some (a, []) ∧ ∃ e, a.getLast? = some e ∧ e ≠ ';' := by
  cases f with
  | upTo stop =>
    obtain ⟨h1, h2⟩ := through_self h
    exact ⟨h1, stop, h2, fun he => hf (he ▸ rfl)⟩
  | blockEnd =>
    obtain ⟨h1, h2⟩ := throughComment_self h
    exact ⟨h1, '/', h2, by decide⟩

/-- Up to a semicolon inside, no end is found. -/
theorem find_inside {f : Fence} (hf : f ≠ .upTo ';') {s a b t u : List Char}
    (h : f.find s = some (a, b)) (ha : a = t ++ ';' :: u) : f.find (t ++ [';']) = none := by
  obtain ⟨hself, e, he, hne⟩ := find_self hf h
  cases hx : f.find (t ++ [';']) with
  | none => rfl
  | some p =>
    obtain ⟨a', b'⟩ := p
    have hy := find_extend hx u
    rw [List.append_assoc, List.singleton_append, ← ha, hself] at hy
    simp only [Option.some.injEq, Prod.mk.injEq] at hy
    have hu : u = [] := (List.append_eq_nil_iff.1 hy.2.symm).2
    rw [ha, hu] at he
    simp only [List.getLast?_append, List.getLast?_singleton, Option.some_or, Option.some.injEq] at he
    exact absurd he.symm hne

/-- A part of a text without an end has no end. -/
theorem find_none {f : Fence} {s t : List Char} (h : f.find (s ++ t) = none) : f.find s = none := by
  cases hx : f.find s with
  | none => rfl
  | some p => rw [find_extend hx t] at h; cases h

end SqlConsole.Statement

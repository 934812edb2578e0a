import SqlConsole.Statement.Blank
import SqlConsole.Statement.Complete

/-! Splitting SQL text into statements. -/
namespace SqlConsole.Statement

/-- The first statement of `before.reverse ++ s` that ends in `s`, and what follows it. It is the
shortest start of the text that ends with a semicolon and is complete. -/
def firstFrom (before : List Char) : List Char → Option (List Char × List Char)
  | [] => none
  | c :: r =>
    if c = ';' ∧ isComplete (before.reverse ++ [';']) then some (before.reverse ++ [';'], r)
    else firstFrom (c :: before) r

/-- The first statement and the rest. Without a finished statement all of the text is the first
one. -/
def first (s : List Char) : List Char × List Char := (firstFrom [] s).getD (s, [])

private theorem append_of_firstFrom {before s a b : List Char}
    (h : firstFrom before s = some (a, b)) : a ++ b = before.reverse ++ s := by
  fun_induction firstFrom before s with
  | case1 => simp at h
  | case2 before c r hc =>
    simp only [Option.some.injEq, Prod.mk.injEq] at h
    simp [← h.1, ← h.2, hc.1]
  | case3 before c r hc ih => simpa using ih h

private theorem ne_nil_of_firstFrom {before s a b : List Char}
    (h : firstFrom before s = some (a, b)) : a ≠ [] := by
  fun_induction firstFrom before s with
  | case1 => simp at h
  | case2 before c r hc =>
    simp only [Option.some.injEq, Prod.mk.injEq] at h
    simp [← h.1]
  | case3 before c r hc ih => exact ih h

theorem first_append (s : List Char) : (first s).1 ++ (first s).2 = s := by
  unfold first
  match h : firstFrom [] s with
  | none => simp
  | some (a, b) => simpa using append_of_firstFrom h

theorem first_ne_nil {s : List Char} (hs : s ≠ []) : (first s).1 ≠ [] := by
  unfold first
  match h : firstFrom [] s with
  | none => simpa using hs
  | some (a, b) => exact ne_nil_of_firstFrom h

/-- The statements of a text, in order; they make up the whole text. -/
def parts (s : List Char) : List (List Char) :=
  match s with
  | [] => []
  | c :: r => (first (c :: r)).1 :: parts (first (c :: r)).2
termination_by s.length
decreasing_by
  have := congrArg List.length (first_append (c :: r))
  have := List.length_pos_iff.2 (first_ne_nil (List.cons_ne_nil c r))
  simp only [List.length_append] at *; omega

/-- Where the part ends cannot be told: the engine would have to judge its text up to a semicolon
that stands after the character zero. -/
def isUnsettled : List Char → Bool
  | [] => false
  | c :: r => if c = '\x00' then r.contains ';' else isUnsettled r

def isSettled (s : List Char) : Bool := isJudged s || (parts s).all fun p => !isUnsettled p

/-- The statements of a text that there is something to run in, up to the first whose end cannot be
told. -/
def runnable (s : List Char) : List (List Char) :=
  ((parts s).takeWhile fun p => !isUnsettled p).filter fun p => !isVoid p

theorem flatten_parts (s : List Char) : (parts s).flatten = s := by
  fun_induction parts s with
  | case1 => rfl
  | case2 c r ih => rw [List.flatten_cons, ih, first_append]

end SqlConsole.Statement

import SqlConsole.Console.Input
import SqlConsole.Proofs.Statement.Terminator
import SqlConsole.Proofs.World.Discreet

/-! Blocks of input lines: text without content, dot commands and SQL statements. A block ends with
the first line that lets it. -/
namespace SqlConsole.Console

/-- Lines as one text. -/
def joined (lines : List (List Char)) : List Char := ['\n'].intercalate lines

/-- The last line as it is taken. It is a semicolon, if it ends statements like one and a semicolon
would complete the lines before it. -/
def taken (held : List (List Char)) (last : List Char) : List Char :=
  if Statement.isTerminator last && Statement.endsAtSemicolon (joined held) then [';'] else last

/-- The SQL text of lines. -/
def sqlOf (held : List (List Char)) (last : List Char) : List Char :=
  joined (held ++ [taken held last])

/-- The lines are a whole number of statements, the last of which ends in the last line. -/
def IsWhole (held : List (List Char)) (last : List Char) : Prop :=
  ';' ∈ taken held last ∧ Statement.isComplete (sqlOf held last)

/-- Lines that are gathered, and that more lines have to follow: they are no dot command, have content
and are no whole number of statements, and that is so for each number of them from the first on. -/
inductive Open : List (List Char) → Prop where
  | nil : Open []
  | concat {held : List (List Char)} {last : List Char} (hheld : Open held)
      (hdot : held = [] → last.head? ≠ some '.')
      (hblank : ¬ Statement.isBlank (joined (held ++ [last]))) (hwhole : ¬ IsWhole held last) :
      Open (held ++ [last])

/-- Lines that are taken together, the last one apart. -/
inductive Block where
  /-- Lines that are dropped. -/
  | blank (held : List (List Char)) (last : List Char)
  | command (line : List Char)
  | statement (held : List (List Char)) (last : List Char)

namespace Block

def lines : Block → List (List Char)
  | blank held last => held ++ [last]
  | command line => [line]
  | statement held last => held ++ [last]

/-- The block is what it is called, and it ends no later than it has to. -/
def Valid : Block → Prop
  | blank held last => Open held ∧ Statement.isBlank (joined (held ++ [last]))
  | command line => line.head? = some '.'
  | statement held last => Open held ∧ (held = [] → last.head? ≠ some '.') ∧
      Statement.isJudged (sqlOf held last) ∧ IsWhole held last

/-- What is done with a block that starts at the given line. -/
def perform (feed : Source → Act Console Outcome) (number : Nat) : Block → Act Console Outcome
  | blank _ _ => pure .success
  | command line => commandLine feed line
  | statement held last => runWhole (String.ofList (sqlOf held last)) (some number)

end Block

theorem joined_concat {held : List (List Char)} (h : held ≠ []) (last : List Char) :
    joined (held ++ [last]) = joined held ++ '\n' :: last := by
  induction held with
  | nil => exact absurd rfl h
  | cons l held ih =>
    cases held with
    | nil => simp [joined]
    | cons l' held =>
      have := ih (List.cons_ne_nil l' held)
      simp only [joined, List.cons_append, List.intercalate_cons_cons] at this ⊢
      rw [this]
      simp

/-- Reading has come to a block that starts at line `number`, and these lines of it are gathered. -/
structure Holds (r : Reading) (number errors : Nat) (held : List (List Char)) : Prop where
  buffer : r.buffer = joined held
  errors : r.errors = errors
  lines : r.lines + 1 = number + held.length
  start : held ≠ [] → r.buffer ≠ [] ∧ r.startLine = number

/-- What a line does to a block that some lines of are gathered: it is gathered too, or the block is
at its end and dealt with, or the engine cannot judge the text. -/
inductive Takes (feed : Source → Act Console Outcome) (number errors : Nat)
    (held : List (List Char)) (line : List Char) (s : Scene Console) :
    Except Failure (Bool × Reading) × Scene Console → Prop where
  | gathered {r : Reading} (hopen : Open (held ++ [line]))
      (hr : Holds r number errors (held ++ [line])) :
      Takes feed number errors held line s (.ok (true, r), s)
  | ended {b : Block} {r : Reading} (hl : b.lines = held ++ [line]) (hb : b.Valid)
      (hr : Holds r (number + b.lines.length) errors []) :
      Takes feed number errors held line s ((do pure (r.after (← b.perform feed number))) s)
  | unjudged (hj : ¬ Statement.isJudged (joined (held ++ [line]))) :
      Takes feed number errors held line s (.error .zeroCharacter, s)

variable {feed : Source → Act Console Outcome} {r : Reading} {number errors : Nat}
  {held : List (List Char)} {line : List Char}

private theorem Holds.isEmpty_iff (h : Holds r number errors held) :
    r.buffer.isEmpty = true ↔ held = [] := by
  constructor
  · intro he
    by_contra hne
    exact (h.start hne).1 (List.isEmpty_iff.1 he)
  · rintro rfl
    rw [h.buffer]
    rfl

private theorem Holds.clear (h : Holds r number errors (held ++ [line])) :
    Holds r.clear (number + (held ++ [line]).length) errors [] :=
  ⟨rfl, h.errors, h.lines, fun hne => absurd rfl hne⟩

/-- A line that is gathered. -/
private theorem Holds.gather (h : Holds r number errors held) (hline : held = [] → line ≠ []) :
    Holds (({ r with lines := r.lines + 1 } : Reading).gather line) number errors
      (held ++ [line]) := by
  have hlines : r.lines + 1 + 1 = number + (held ++ [line]).length := by
    have := h.lines
    rw [List.length_append]
    simp only [List.length_singleton]
    omega
  by_cases hheld : held = []
  · have hempty := h.isEmpty_iff.2 hheld
    subst hheld
    rw [Reading.gather, if_pos hempty]
    refine ⟨by simp [joined], h.errors, hlines, fun _ => ⟨hline rfl, ?_⟩⟩
    exact h.lines
  · have hempty : ¬ r.buffer.isEmpty = true := fun he => hheld (h.isEmpty_iff.1 he)
    rw [Reading.gather, if_neg hempty]
    refine ⟨?_, h.errors, hlines, fun _ => ⟨by simp, (h.start hheld).2⟩⟩
    show r.buffer ++ '\n' :: line = _
    rw [joined_concat hheld, h.buffer]

theorem isJudged_iff (s : List Char) : Statement.isJudged s = true ↔ '\x00' ∉ s := by
  simp [Statement.isJudged]

private theorem isJudged_joined_concat :
    Statement.isJudged (joined (held ++ [line])) = true ↔
      Statement.isJudged (joined held) = true ∧ Statement.isJudged line = true := by
  simp only [isJudged_iff]
  by_cases hheld : held = []
  · simp [hheld, joined]
  · simp [joined_concat hheld]

/-- A line that is taken as a semicolon makes the block whole. -/
theorem isWhole_of_taken (h : taken held line ≠ line) : IsWhole held line := by
  have ht : taken held line = [';'] ∧ Statement.endsAtSemicolon (joined held) := by
    unfold taken at h ⊢
    split at h
    · rename_i hc
      rw [if_pos hc]
      exact ⟨rfl, (Bool.and_eq_true_iff.1 hc).2⟩
    · exact absurd rfl h
  refine ⟨by simp [ht.1], ?_⟩
  rw [sqlOf, ht.1]
  by_cases hheld : held = []
  · subst hheld
    exact Statement.isCompleteFrom_semicolon _
  · rw [joined_concat hheld]
    exact Statement.isComplete_of_endsAtSemicolon ht.2

private theorem taken_ne_nil (h : line ≠ []) : taken held line ≠ [] := by
  intro hnil
  by_cases hs : taken held line = line
  · exact h (hs ▸ hnil)
  · have := (isWhole_of_taken hs).1
    rw [hnil] at this
    cases this

private theorem isJudged_sqlOf (h : Statement.isJudged (joined (held ++ [line]))) :
    Statement.isJudged (sqlOf held line) := by
  obtain ⟨hheld, hline⟩ := isJudged_joined_concat.1 h
  refine isJudged_joined_concat.2 ⟨hheld, ?_⟩
  unfold taken
  split
  · rfl
  · exact hline

private theorem judge_eq (test : List Char → Bool) (b : List Char) (s : Scene Console) :
    judge test b s =
      if Statement.isJudged b then (.ok (test b), s) else (.error .zeroCharacter, s) := by
  unfold judge
  split <;> rfl

theorem assemble_cases (held : List (List Char)) (line : List Char) (s : Scene Console) :
    assemble (joined held) line s = (.ok (taken held line), s) ∨
      (assemble (joined held) line s = (.error .zeroCharacter, s) ∧
        ¬ Statement.isJudged (joined held)) := by
  unfold assemble taken
  cases ht : Statement.isTerminator line with
  | false => exact Or.inl rfl
  | true =>
    rw [if_pos rfl, Act.bind_apply, judge_eq]
    by_cases hj : Statement.isJudged (joined held)
    · rw [if_pos hj]
      exact Or.inl rfl
    · rw [if_neg hj]
      exact Or.inr ⟨rfl, hj⟩

theorem isFull_cases (b line : List Char) (s : Scene Console) :
    (isFull b line s = (.ok true, s) ∧ Statement.isJudged b ∧
        ';' ∈ line ∧ Statement.isComplete b) ∨
      (isFull b line s = (.ok false, s) ∧ ¬ (';' ∈ line ∧ Statement.isComplete b)) ∨
      (isFull b line s = (.error .zeroCharacter, s) ∧ ¬ Statement.isJudged b) := by
  unfold isFull
  by_cases hs : ';' ∈ line
  · rw [if_pos (by simpa using hs), judge_eq]
    by_cases hj : Statement.isJudged b
    · rw [if_pos hj]
      cases hc : Statement.isComplete b with
      | true => exact Or.inl ⟨rfl, hj, hs, rfl⟩
      | false => exact Or.inr (Or.inl ⟨rfl, by simp⟩)
    · rw [if_neg hj]
      exact Or.inr (Or.inr ⟨rfl, hj⟩)
  · rw [if_neg (by simpa using hs)]
    exact Or.inr (Or.inl ⟨rfl, fun h => hs h.1⟩)

private theorem takeSql_takes (h : Holds r number errors held) (hopen : Open held)
    (hline : held = [] → line ≠ []) (hdot : held = [] → line.head? ≠ some '.')
    (s : Scene Console) :
    Takes feed number errors held line s
      (takeSql false { r with lines := r.lines + 1 } line s) := by
  have hassemble := assemble_cases held line s
  rw [← h.buffer] at hassemble
  rcases hassemble with ha | ⟨ha, hj⟩
  · have htaken : held = [] → taken held line ≠ [] := fun hheld => taken_ne_nil (hline hheld)
    have hg := h.gather htaken
    have hsql : takeSql false { r with lines := r.lines + 1 } line s = _ := Act.bind_ok ha _
    generalize ({ r with lines := r.lines + 1 } : Reading).gather (taken held line) = r' at hg hsql
    have hbuffer : r'.buffer = sqlOf held line := hg.buffer
    rcases isFull_cases r'.buffer (taken held line) s with ⟨hf, hj, hc⟩ | ⟨hf, hc⟩ | ⟨hf, hj⟩
    · have hrun := hsql.trans (Act.bind_ok hf _)
      rw [show takeSql false { r with lines := r.lines + 1 } line s =
        (do pure (r'.clear.after (← (Block.statement held line).perform feed number))) s by
          rw [hrun, Block.perform, ← hbuffer, ← (hg.start (by simp)).2]
          rfl]
      rw [hbuffer] at hj hc
      exact .ended rfl ⟨hopen, hdot, hj, hc⟩ (by simpa [Block.lines] using hg.clear)
    · have hwhole : ¬ IsWhole held line := fun h => hc ⟨h.1, hbuffer ▸ h.2⟩
      have hs : taken held line = line := by
        by_contra hs
        exact hwhole (isWhole_of_taken hs)
      have hrun := hsql.trans (Act.bind_ok hf _)
      rw [hs] at hg
      by_cases hb : Statement.isBlank r'.buffer
      · rw [show takeSql false { r with lines := r.lines + 1 } line s =
          (do pure (r'.clear.after (← (Block.blank held line).perform feed number))) s by
            rw [hrun, hb]
            rfl]
        exact .ended rfl ⟨hopen, hg.buffer ▸ hb⟩ hg.clear
      · rw [hrun, Bool.eq_false_iff.2 hb]
        exact .gathered (.concat hopen hdot (hg.buffer ▸ hb) hwhole) hg
    · rw [show takeSql false { r with lines := r.lines + 1 } line s = _ from
        hsql.trans (Act.bind_error hf _)]
      exact .unjudged fun hall => hj (hbuffer ▸ isJudged_sqlOf hall)
  · rw [show takeSql false { r with lines := r.lines + 1 } line s = _ from Act.bind_error ha _]
    exact .unjudged fun hall => hj (h.buffer ▸ (isJudged_joined_concat.1 hall).1)

/-- Every line is gathered, or ends the block that it belongs to. -/
theorem takeLine_takes (h : Holds r number errors held) (hopen : Open held) (line : List Char)
    (s : Scene Console) :
    Takes feed number errors held line s (takeLine feed false r line s) := by
  have hlines : held = [] →
      Holds ({ r with lines := r.lines + 1 } : Reading) (number + 1) errors [] := by
    rintro rfl
    exact ⟨h.buffer, h.errors, by have := h.lines; simp at this ⊢; omega, fun hne => absurd rfl hne⟩
  unfold takeLine
  by_cases hheld : held = []
  · have hempty := h.isEmpty_iff.2 hheld
    subst hheld
    by_cases hb : Statement.isBlank line
    · have hvalid : (Block.blank [] line).Valid := ⟨.nil, by simpa [joined] using hb⟩
      simp only [hempty, hb, Bool.and_self, if_true]
      exact .ended (b := .blank [] line) rfl hvalid (hlines rfl)
    · have hne : line ≠ [] := by
        rintro rfl
        exact hb rfl
      by_cases hd : line.head? = some '.'
      · simp only [hempty, hb, hd, Bool.and_false, if_false, beq_self_eq_true, Bool.and_self, if_true,
          Bool.false_eq_true]
        exact .ended (b := .command line) rfl hd (hlines rfl)
      · have hsql : Takes feed number errors [] line s
            (takeSql false { r with lines := r.lines + 1 } line s) :=
          takeSql_takes h hopen (fun _ => hne) (fun _ => hd) s
        simpa [hempty, hb, hd] using hsql
  · have hempty : ¬ r.buffer.isEmpty = true := fun he => hheld (h.isEmpty_iff.1 he)
    have hsql : Takes feed number errors held line s
        (takeSql false { r with lines := r.lines + 1 } line s) :=
      takeSql_takes h hopen (fun he => absurd he hheld) (fun he => absurd he hheld) s
    simpa [hempty] using hsql

end SqlConsole.Console

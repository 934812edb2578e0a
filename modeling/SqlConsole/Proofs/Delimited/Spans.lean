import SqlConsole.Delimited.Record
import SqlConsole.Proofs.Text.Lines

/-! Which lines of a file make up its records. -/
namespace SqlConsole.Delimited

/-- The records of lines that have `n` others before them. Each record takes as many lines as it
needs for its quotes to be closed, the last one as many as there are, and has the number of the last
of them. -/
inductive Spans : (n : Nat) → List (List Char) → List Record → Prop
  | nil (n : Nat) : Spans n [] []
  | cons {n : Nat} {own after : List (List Char)} {rs : List Record} (hne : own ≠ [])
      (hopen : ∀ k, 0 < k → k < own.length → isBalanced (own.take k).flatten = false)
      (hclosed : isBalanced own.flatten ∨ after = []) (h : Spans (n + own.length) after rs) :
      Spans n (own ++ after) (⟨n + own.length, dropLineEnd own.flatten⟩ :: rs)

/-- These lines begin a record whose quotes are still open, with `n` lines before it. -/
private structure Opens (n : Nat) (pre : List (List Char)) (g : Gathering) : Prop where
  lines : g.lines = n + pre.length
  begun : g.begun = pre.flatten
  whole : ∀ l ∈ pre, l ≠ []
  unbalanced : ∀ k, 0 < k → k ≤ pre.length → isBalanced (pre.take k).flatten = false

private theorem opens_nil (n : Nat) : Opens n [] ⟨n, []⟩ :=
  ⟨rfl, rfl, nofun, fun k hk hle => absurd hle (by simpa using hk.ne')⟩

private theorem Opens.concat {n : Nat} {pre : List (List Char)} {g : Gathering} (h : Opens n pre g)
    {l : List Char} (hl : l ≠ []) (hopen : isBalanced (g.begun ++ l) = false) :
    Opens n (pre ++ [l]) ⟨g.lines + 1, g.begun ++ l⟩ where
  lines := by simp [h.lines, Nat.add_assoc]
  begun := by simp [h.begun]
  whole l' hl' := by
    rcases List.mem_append.1 hl' with hl' | hl'
    · exact h.whole l' hl'
    · rwa [List.mem_singleton.1 hl']
  unbalanced k hk hle := by
    rcases Nat.lt_or_ge pre.length k with hlt | hle'
    · rw [List.take_of_length_le (by simpa [Nat.succ_le_iff] using hlt)]
      simpa [h.begun] using hopen
    · rw [List.take_append_of_le_length hle']
      exact h.unbalanced k hk hle'

private theorem spans_of_opens {n : Nat} {pre ls : List (List Char)} {g : Gathering}
    (h : Opens n pre g) (hls : ∀ l ∈ ls, l ≠ []) : Spans n (pre ++ ls) (g.records ls) := by
  induction ls generalizing n pre g with
  | nil =>
    rw [Gathering.records, Gathering.last?, h.begun, h.lines]
    by_cases hpre : pre = []
    · subst hpre
      exact .nil n
    · have hbegun : pre.flatten.isEmpty = false := by
        obtain ⟨l, hl⟩ := List.exists_mem_of_ne_nil pre hpre
        simpa using ⟨l, hl, h.whole l hl⟩
      rw [hbegun]
      exact .cons hpre (fun k hk hlt => h.unbalanced k hk hlt.le) (.inr rfl) (.nil _)
  | cons l ls ih =>
    have hl : l ≠ [] := hls l List.mem_cons_self
    have hrest : ∀ l' ∈ ls, l' ≠ [] := fun l' hl' => hls l' (List.mem_cons_of_mem l hl')
    rw [Gathering.records, Gathering.add]
    split
    · next hbalanced =>
      have hspan : Spans n ((pre ++ [l]) ++ ls) (⟨n + (pre ++ [l]).length,
          dropLineEnd (pre ++ [l]).flatten⟩ :: Gathering.records ⟨n + (pre ++ [l]).length, []⟩ ls) := by
        refine .cons (by simp) (fun k hk hlt => ?_) (.inl ?_) (ih (opens_nil _) hrest)
        · have hle : k ≤ pre.length := by simpa [Nat.lt_succ_iff] using hlt
          rw [List.take_append_of_le_length hle]
          exact h.unbalanced k hk hle
        · simpa [h.begun] using hbalanced
      simpa [h.lines, h.begun, Nat.add_assoc] using hspan
    · next hbalanced =>
      simpa using ih (h.concat hl (by simpa using hbalanced)) hrest

/-- The records that are read from a text are those of its lines. -/
theorem spans_records (s : List Char) : Spans 0 (Text.anyLines s) (records s) :=
  spans_of_opens (opens_nil 0) Text.ne_nil_of_mem_anyLines

end SqlConsole.Delimited

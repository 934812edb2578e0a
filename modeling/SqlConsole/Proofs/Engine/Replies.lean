import SqlConsole.Engine.Script

/-! What the engine says to texts that it is given one after the other. -/
namespace SqlConsole.Engine

/-- No row lacks a value for a column. -/
def Answer.IsFull (a : Answer) : Prop := ∀ values ∈ a.rows.getD [], a.columns.length ≤ values.length

namespace Script

/-- No row of any answer lacks a value. -/
def IsFull (s : Script) : Prop := ∀ a ∈ s.answers, a.IsFull

/-- The script after its answers to texts that are given one after the other. -/
def after (s : Script) (texts : List String) : Script :=
  texts.foldl (fun s sql => (s.answer sql).2) s

/-- The answers to texts that are given one after the other. -/
def replies (s : Script) : List String → List Answer
  | [] => []
  | sql :: texts => (s.answer sql).1 :: replies (s.answer sql).2 texts

theorem after_concat (s : Script) (texts : List String) (sql : String) :
    s.after (texts ++ [sql]) = ((s.after texts).answer sql).2 := by simp [after]

theorem replies_concat (s : Script) (texts : List String) (sql : String) :
    s.replies (texts ++ [sql]) = s.replies texts ++ [((s.after texts).answer sql).1] := by
  induction texts generalizing s with
  | nil => rfl
  | cons t texts ih => exact congrArg _ (ih _)

theorem sql_answer (s : Script) (sql : String) : (s.answer sql).1.sql = sql := by
  have hmem (a : Answer) (h : a ∈ s.answers.filter (·.sql == sql)) : a.sql = sql := by
    simpa using (List.mem_filter.1 h).2
  unfold answer
  split
  · rfl
  · next a h => exact hmem a (by rw [h]; exact List.mem_cons_self)
  · next a r _ h => exact hmem a (by rw [h]; exact List.mem_cons_self)

private theorem filter_dropAnswer {t u : String} (h : t ≠ u) (l : List Answer) :
    (dropAnswer t l).filter (·.sql == u) = l.filter (·.sql == u) := by
  induction l with
  | nil => rfl
  | cons a l ih =>
    rw [dropAnswer]
    split
    · next ha => rw [List.filter_cons_of_neg (by simpa [ha] using h)]
    · simp only [List.filter_cons, ih]

theorem answer_answer_of_ne {t u : String} (h : t ≠ u) (s : Script) :
    ((s.answer t).2.answer u).1 = (s.answer u).1 := by
  have hfilter : (s.answer t).2.answers.filter (·.sql == u) = s.answers.filter (·.sql == u) := by
    unfold answer
    split
    · rfl
    · rfl
    · exact filter_dropAnswer h s.answers
  rw [answer.eq_def, answer.eq_def s u, hfilter]
  split <;> rfl

/-- Answers to other texts do not change the one to this text. -/
theorem answer_after {texts : List String} {sql : String} (h : ∀ t ∈ texts, t ≠ sql) (s : Script) :
    ((s.after texts).answer sql).1 = (s.answer sql).1 := by
  induction texts generalizing s with
  | nil => rfl
  | cons t texts ih =>
    calc ((s.after (t :: texts)).answer sql).1
      _ = ((s.answer t).2.answer sql).1 := ih (fun u hu => h u (List.mem_cons_of_mem t hu)) _
      _ = (s.answer sql).1 := answer_answer_of_ne (h t List.mem_cons_self) s

theorem dropAnswer_subset (sql : String) (l : List Answer) : dropAnswer sql l ⊆ l := by
  induction l with
  | nil => exact List.Subset.refl _
  | cons a l ih =>
    rw [dropAnswer]
    split
    · exact List.subset_cons_self a l
    · exact List.cons_subset_cons a ih

namespace IsFull
variable {s : Script}

theorem answer (h : s.IsFull) (sql : String) : (s.answer sql).1.IsFull := by
  have hmem (a : Answer) (ha : a ∈ s.answers.filter (·.sql == sql)) : a.IsFull :=
    h a (List.mem_filter.1 ha).1
  unfold Script.answer
  split
  · simp [Answer.IsFull]
  · next a ha => exact hmem a (by rw [ha]; exact List.mem_cons_self)
  · next a r _ ha => exact hmem a (by rw [ha]; exact List.mem_cons_self)

theorem answered (h : s.IsFull) (sql : String) : (s.answer sql).2.IsFull := by
  unfold Script.answer
  split
  · exact h
  · exact h
  · exact fun a ha => h a (dropAnswer_subset sql s.answers ha)

end IsFull
end Script
end SqlConsole.Engine

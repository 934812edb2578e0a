import SqlConsole.Proofs.Execute.Reference
import SqlConsole.Proofs.Statement.Skipped

/-! Complete SQL text that is run: what of it the engine gets, and what it never sees. -/
namespace SqlConsole.Execute

open Layout (Row)
open Statement (Filler Reads isIdle isSpace lexemes parts)

variable {σ : Type}

private theorem isIdle_of_isSpace {c : Char} (h : isSpace c) : isIdle c := by
  simp only [isSpace, Bool.or_eq_true, beq_iff_eq] at h
  rcases h with (((rfl | rfl) | rfl) | rfl) | rfl <;> decide

/-- Of a complete text the engine gets statements that are complete by themselves, each with its
semicolon. What it is not given, and is not left because of a failure, holds white space, comments
and semicolons alone; a token there may be made of characters that are white space to a reader. -/
theorem run_complete (session : Session) (db : Connection) (each : Row → Act σ Bool)
    (report? : Option (Engine.Error → Act σ Unit)) (sql : String) (s : Scene σ)
    (hjudged : Statement.isJudged sql.toList) (hcomplete : Statement.isComplete sql.toList)
    (heach : ∀ row, (each row).Discreet) (hreport : ∀ report ∈ report?, ∀ e, (report e).Discreet) :
    ∃ passed left, Gives s passed (run session db each report? sql s).2 ∧
      (parts sql.toList).filter (fun p => !Statement.isVoid p) = passed ++ left ∧
      ((run session db each report? sql s).1 = .ok 0 → left = []) ∧
      (∀ p ∈ passed ++ left, Statement.isComplete p ∧ ∃ x, p = x ++ [';']) ∧
      (∀ p ∈ parts sql.toList, p ∈ passed ++ left ∨ Filler isIdle p) ∧
      ∀ t ∈ (lexemes sql.toList).1, (∃ p ∈ passed ++ left, t ∈ (lexemes p).1) ∨ t.IsIdle := by
  obtain ⟨done, rest, given, s₁, hrest, hps, hc⟩ := run_concludes session db each report? sql s
  obtain ⟨left, rfl, hleft⟩ := hc.given_prefix
  have hsettled : Statement.isSettled sql.toList := by
    simp [Statement.isSettled, hjudged]
  rw [Statement.runnable_of_isSettled hsettled, ← List.append_assoc] at hrest
  have hparts : ∀ p ∈ parts sql.toList, p ∈ done ++ given ++ left ∨ Filler isIdle p := by
    intro p hp
    by_cases hv : Statement.isVoid p
    · exact Or.inr ((Statement.isVoid_iff p).1 hv)
    · exact Or.inl (hrest ▸ List.mem_filter.2 ⟨hp, by simpa using hv⟩)
  refine ⟨done ++ given, left, (hps.gives heach).trans (hc.gives heach hreport), hrest, hleft, ?_,
    hparts, ?_⟩
  · intro p hp
    rw [← hrest, List.mem_filter] at hp
    obtain ⟨hp, hv⟩ := hp
    refine (Statement.parts_of_complete (fun _ => isIdle_of_isSpace) hcomplete p hp).resolve_right ?_
    intro hfiller
    rw [(Statement.isVoid_iff p).2 hfiller] at hv
    cases hv
  · intro t ht
    rw [Statement.lexemes_eq_flatMap_parts, List.mem_flatMap] at ht
    obtain ⟨p, hp, ht⟩ := ht
    rcases hparts p hp with hp | hp
    · exact Or.inl ⟨p, hp, ht⟩
    · exact Or.inr (Statement.tokens_of_filler hp t ht)

theorem run_complete_passes :
    Gives (fresh []) ["a;".toList] (run {} { filename := "" } keep none "a; ;" (fresh [])).2 := by
  have hjudged : Statement.isJudged "a; ;".toList := by decide
  have hread : Reads "a; ;".toList
      [⟨.other, ['a']⟩, ⟨.semicolon, [';']⟩, ⟨.blank, [' ']⟩, ⟨.semicolon, [';']⟩] [] :=
    .cons rfl (.cons rfl (.cons rfl (.cons rfl (.nil []))))
  have hcomplete : Statement.isComplete "a; ;".toList := hread.isComplete_eq
  have hparts : parts "a; ;".toList = ["a;".toList, " ;".toList] := Statement.parts_of_reads hread
  have hrun : (run {} { filename := "" } keep none "a; ;" (fresh [])).1 = .ok 0 := by
    rw [run, Statement.runnable, hparts, Statement.isSettled, hparts]
    rfl
  obtain ⟨passed, left, hgives, hpassed, hleft, -⟩ := run_complete {} { filename := "" } keep none
    "a; ;" (fresh []) hjudged hcomplete keep_discreet (by simp)
  rw [hleft hrun, List.append_nil, hparts] at hpassed
  rwa [← hpassed] at hgives

/-- A no-break space is a token of its own, and is passed over all the same. -/
theorem run_passes_over_word :
    Statement.isComplete "\u00a0;".toList ∧
      ⟨.other, ['\u00a0']⟩ ∈ (lexemes "\u00a0;".toList).1 ∧
      (run {} { filename := "" } keep none "\u00a0;" (fresh [])).1 = .ok 0 ∧
      (run {} { filename := "" } keep none "\u00a0;" (fresh [])).2.world.given = [] := by
  have hread : Reads "\u00a0;".toList [⟨.other, ['\u00a0']⟩, ⟨.semicolon, [';']⟩] [] :=
    .cons rfl (.cons rfl (.nil []))
  have hparts : parts "\u00a0;".toList = ["\u00a0;".toList] := Statement.parts_of_reads hread
  refine ⟨hread.isComplete_eq, ?_, ?_, ?_⟩
  · rw [hread.lexemes_eq]
    exact List.mem_cons_self
  · rw [run, Statement.runnable, hparts, Statement.isSettled, hparts]
    rfl
  · rw [run, Statement.runnable, hparts, Statement.isSettled, hparts]
    rfl

end SqlConsole.Execute

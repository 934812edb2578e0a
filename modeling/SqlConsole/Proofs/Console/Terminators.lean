import SqlConsole.Proofs.Console.Partition
import SqlConsole.Proofs.Statement.Trailing
import SqlConsole.Proofs.World.Sinks

/-! Lines that end a statement like a semicolon does. They run what has been gathered, unless it ends
in a line comment. -/
namespace SqlConsole.Console
open Statement (EndsInComment)

variable {feed : Source → Act Console Outcome} {interactive : Bool} {r : Reading} {line : List Char}

/-- What is done with a line that completes what has been gathered: that is run. -/
def runGathered (interactive : Bool) (r : Reading) (line : List Char) : Act Console (Bool × Reading) := do
  let line? : Option Int := if interactive then none else some r.startLine
  pure (r.drop.after (← runWhole (String.ofList (r.buffer ++ '\n' :: line)) line?))

/-- A line behind what has been gathered is gathered too, as it is assembled, and run with it if that
is complete then. -/
private theorem takeLine_eq {taken : List Char} (hbuffer : r.buffer ≠ [])
    (hassemble : assemble r.buffer line = pure taken) :
    takeLine feed interactive r line = (do
      if ← isFull (r.buffer ++ '\n' :: taken) taken then runGathered interactive r taken
      else
        let next := { r with buffer := r.buffer ++ '\n' :: taken, lines := r.lines + 1 }
        pure (true, if Statement.isBlank next.buffer then next.clear else next)) := by
  have hempty : r.buffer.isEmpty = false := by simpa using hbuffer
  simp only [takeLine, hempty, Bool.false_and, Bool.false_eq_true, if_false, takeSql, hassemble,
    pure_bind, Reading.gather]
  rfl

private theorem assemble_eq {b : List Char} (hjudged : Statement.isJudged b)
    (hline : Statement.isTerminator line) :
    assemble b line = pure (if Statement.endsAtSemicolon b then [';'] else line) := by
  rw [assemble, if_pos hline, judge, if_pos hjudged, pure_bind]

private theorem endsAtSemicolon_eq {b : List Char} (hb : b ≠ []) :
    Statement.endsAtSemicolon b = Statement.isComplete (b ++ [';']) := by
  simp [Statement.endsAtSemicolon, hb]

/-- A semicolon runs what it completes. -/
theorem takeLine_semicolon (hbuffer : r.buffer ≠ []) (hjudged : Statement.isJudged r.buffer)
    (hcomplete : Statement.isComplete (r.buffer ++ ['\n', ';'])) :
    takeLine feed interactive r [';'] = runGathered interactive r [';'] := by
  have hwhole : Statement.isJudged (r.buffer ++ ['\n', ';']) := by
    simpa [isJudged_iff] using hjudged
  have hassemble : assemble r.buffer [';'] = pure [';'] := rfl
  have hfull : isFull (r.buffer ++ ['\n', ';']) [';'] = pure true := by
    rw [isFull, if_pos (by decide), judge, if_pos hwhole, hcomplete]
  rw [takeLine_eq hbuffer hassemble, hfull, pure_bind]
  rfl

/-- A line that ends a statement like a semicolon does is taken as one, where that completes what has
been gathered. -/
theorem takeLine_terminator (hbuffer : r.buffer ≠ []) (hjudged : Statement.isJudged r.buffer)
    (hline : Statement.isTerminator line) (hcomplete : Statement.isComplete (r.buffer ++ [';'])) :
    takeLine feed interactive r line = takeLine feed interactive r [';'] := by
  have hassemble : assemble r.buffer line = pure [';'] := by
    rw [assemble_eq hjudged hline, endsAtSemicolon_eq hbuffer, if_pos hcomplete]
  have hsemicolon : assemble r.buffer [';'] = pure [';'] := rfl
  rw [takeLine_eq hbuffer hassemble, takeLine_eq hbuffer hsemicolon]

/-- Otherwise it is gathered as it stands, and nothing is done. -/
theorem takeLine_comment (hbuffer : r.buffer ≠ []) (hjudged : Statement.isJudged r.buffer)
    (hline : Statement.isTerminator line) (hends : EndsInComment r.buffer)
    (hopen : ¬ Statement.isComplete r.buffer)
    (hhidden : ¬ Statement.isComplete (r.buffer ++ [';'])) (s : Scene Console) :
    (∃ r', takeLine feed interactive r line s = (.ok (true, r'), s)) ∨
      takeLine feed interactive r line s = (.error .zeroCharacter, s) := by
  have hassemble : assemble r.buffer line = pure line := by
    rw [assemble_eq hjudged hline, endsAtSemicolon_eq hbuffer, if_neg hhidden]
  have hnever := Statement.not_isComplete_terminator hline hends hopen
  rw [takeLine_eq hbuffer hassemble]
  rcases isFull_cases (r.buffer ++ '\n' :: line) line s with ⟨-, -, -, hc⟩ | ⟨hf, -⟩ | ⟨hf, -⟩
  · exact absurd hc hnever
  · rw [Act.bind_ok hf]
    exact .inl ⟨_, rfl⟩
  · rw [Act.bind_error hf]
    exact .inr rfl

/-- Behind SQL that a semicolon on the next line runs, every line that ends a statement like one does
runs it too, unless the SQL is not complete and ends in a line comment. Then the line does nothing. -/
theorem takeWhole_terminator {text : List Char} (hbuffer : r.buffer ≠ [])
    (hjudged : Statement.isJudged r.buffer)
    (hcomplete : Statement.isComplete (r.buffer ++ ['\n', ';']))
    (hline : Statement.isTerminator (Text.chomp text)) :
    takeLine feed interactive r [';'] = runGathered interactive r [';'] ∧
      (¬ EndsInComment r.buffer ∨ Statement.isComplete r.buffer →
        takeWhole feed interactive r text = takeWhole feed interactive r [';', '\n']) ∧
      (EndsInComment r.buffer → ¬ Statement.isComplete r.buffer →
        ∀ s, (takeWhole feed interactive r text s).2 = s) := by
  have hiff := Statement.isComplete_semicolon_iff hcomplete
  refine ⟨takeLine_semicolon hbuffer hjudged hcomplete, fun hend => ?_, fun hends hopen s => ?_⟩
  · have hsame : takeLine feed interactive r (Text.chomp text) = takeLine feed interactive r [';'] :=
      takeLine_terminator hbuffer hjudged hline (hiff.2 hend)
    rw [takeWhole, hsame]
    rfl
  · have hhidden : ¬ Statement.isComplete (r.buffer ++ [';']) := fun hc =>
      (hiff.1 hc).elim (fun hn => hn hends) hopen
    have hnothing := @takeLine_comment feed interactive _ _ hbuffer hjudged hline hends hopen hhidden s
    rcases hnothing with ⟨r', htake⟩ | htake
    · rw [takeWhole_of_ok htake]
    · rw [takeWhole_of_fails (by decide) htake]

/-- The word GO on the line after a statement without a semicolon. -/
theorem takeWhole_terminator_go :
    let r : Reading := { buffer := ['a'], startLine := 1, lines := 1 }
    Statement.isTerminator ['G', 'o'] ∧
      takeLine readSource false r [';'] = runGathered false r [';'] ∧
      takeWhole readSource false r ['G', 'o', '\n'] = takeWhole readSource false r [';', '\n'] := by
  intro r
  have hread : Statement.Reads ['a', '\n', ';'] [⟨.other, ['a']⟩, ⟨.blank, ['\n']⟩, ⟨.semicolon, [';']⟩] [] :=
    .cons rfl (.cons rfl (.cons rfl (.nil [])))
  have hword : Statement.Reads ['a'] [⟨.other, ['a']⟩] [] := .cons rfl (.nil [])
  have hends : ¬ EndsInComment r.buffer := by
    rintro ⟨v, hv⟩
    rw [hword.lexemes_eq, Statement.lexemes] at hv
    cases hv
  obtain ⟨hrun, hsame, -⟩ := @takeWhole_terminator readSource false r ['G', 'o', '\n'] (by decide) rfl
    hread.isComplete_eq rfl
  exact ⟨rfl, hrun, hsame (.inl hends)⟩

/-- The word GO on the line after a line comment does not run the statement before it, as a semicolon
there does. -/
theorem readInput_terminator_hidden :
    Statement.isTerminator "go".toList ∧ Statement.isComplete "a -- c\n;".toList ∧
      (readInput false (inputOfText "a -- c\n;\n".toList) untouched).2.world.given = ["a -- c\n;"] ∧
      (readInput false (inputOfText "a -- c\ngo\n".toList) untouched).2.world.given = [] ∧
      (readInput false (inputOfText "a -- c\ngo\n".toList) untouched).2.world.written .stderr =
        ["Error: incomplete SQL: a -- c\ngo\n"] := by
  have hlonger : Statement.Reads ("a -- c".toList ++ [';']) [⟨.other, ['a']⟩, ⟨.blank, [' ']⟩]
      ('-' :: "- c;".toList) := .cons rfl (.cons rfl (.nil _))
  have hread : Statement.Reads ("a -- c".toList ++ ['\n', ';'])
      [⟨.other, ['a']⟩, ⟨.blank, [' ']⟩, ⟨.blank, "-- c\n".toList⟩, ⟨.semicolon, [';']⟩] [] :=
    .cons rfl (.cons rfl (.cons rfl (.cons rfl (.nil []))))
  have hhidden : ¬ Statement.isComplete ("a -- c".toList ++ [';']) := by
    rw [Statement.isComplete, hlonger.isCompleteFrom_eq, Statement.isCompleteFrom_lineComment rfl]
    decide
  have hready : Ready 0 untouched := ⟨.inl rfl, rfl⟩
  have hfirst : takeLine readSource false {} (Text.chomp "a -- c\n".toList) untouched =
      (.ok (true, { buffer := "a -- c".toList, startLine := 1, lines := 1 }), untouched) := rfl
  have hassemble : assemble "a -- c".toList "go".toList = pure "go".toList := by
    rw [assemble_eq rfl rfl, endsAtSemicolon_eq (by decide), if_neg hhidden]
  have hgo : takeLine readSource false { buffer := "a -- c".toList, startLine := 1, lines := 1 }
      (Text.chomp "go\n".toList) untouched =
      (.ok (true, { buffer := "a -- c\ngo".toList, startLine := 1, lines := 2 }), untouched) :=
    (Act.bind_ok (congrFun hassemble untouched) _).trans rfl
  have hleft : readInput false (inputOfText "a -- c\ngo\n".toList) untouched =
      conclude { buffer := "a -- c\ngo".toList, startLine := 1, lines := 2 } untouched := by
    refine (readItems_of_taken hready (by decide) hfirst _).trans ?_
    refine (readItems_of_taken hready (by decide) hgo _).trans ?_
    exact readItems_nil hready
  have hparts : Statement.parts "a -- c\n;".toList = ["a -- c\n;".toList] :=
    Statement.parts_of_reads hread
  obtain ⟨hrun, hgiven, hinterrupted⟩ : runWhole "a -- c\n;" (some 1) untouched =
      (.ok .success, (runWhole "a -- c\n;" (some 1) untouched).2) ∧
      (runWhole "a -- c\n;" (some 1) untouched).2.world.given = ["a -- c\n;"] ∧
      (runWhole "a -- c\n;" (some 1) untouched).2.own.interrupted = false := by
    simp only [runWhole, runSql, Execute.run, Statement.runnable, Statement.isSettled, hparts]
    exact ⟨rfl, rfl, rfl⟩
  have hsemicolon : takeLine readSource false { buffer := "a -- c".toList, startLine := 1, lines := 1 }
      (Text.chomp ";\n".toList) untouched =
      (.ok (true, { startLine := 1, lines := 2 }), (runWhole "a -- c\n;" (some 1) untouched).2) := by
    have htake := @takeLine_semicolon readSource false
      { buffer := "a -- c".toList, startLine := 1, lines := 1 } (by decide) rfl hread.isComplete_eq
    exact (congrFun htake untouched).trans (Act.bind_ok hrun _)
  have hall : readInput false (inputOfText "a -- c\n;\n".toList) untouched =
      conclude { startLine := 1, lines := 2 } (runWhole "a -- c\n;" (some 1) untouched).2 := by
    refine (readItems_of_taken hready (by decide) hfirst _).trans ?_
    refine (readItems_of_taken hready (by decide) hsemicolon _).trans ?_
    exact readItems_nil ⟨.inl rfl, hinterrupted⟩
  refine ⟨rfl, hread.isComplete_eq, ?_, ?_, ?_⟩
  · rw [hall]
    exact hgiven
  · rw [hleft]
    rfl
  · rw [hleft]
    rfl

end SqlConsole.Console

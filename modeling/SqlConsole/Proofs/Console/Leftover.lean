import SqlConsole.Proofs.Console.Visit
import SqlConsole.Proofs.Statement.Late
import SqlConsole.Proofs.World.Sinks

/-! What is gathered while input is read, and what is told of it at the end. It is complete only where a
block comment behind a finished statement was closed on a line without a semicolon. -/
namespace SqlConsole.Console
open Statement (ClosesLate)

variable {interactive : Bool} {r r' : Reading} {held : List (List Char)} {line : List Char}
  {p q : Place}

theorem Open.joined_ne_nil (h : Open held) (hne : held ≠ []) : joined held ≠ [] := by
  cases h with
  | nil => exact absurd rfl hne
  | concat _ _ hblank _ =>
    intro hnil
    rw [hnil] at hblank
    exact hblank rfl

/-- Lines that are gathered are complete with a line that has no semicolon, or not at all. -/
theorem Open.isComplete_iff (h : Open held) :
    Statement.isComplete (joined held) ↔ ClosesLate (joined held) := by
  refine ⟨fun hcomplete => ?_, ClosesLate.isComplete⟩
  induction h with
  | nil => exact absurd (Statement.semicolon_mem (by decide) hcomplete) (by simp [joined])
  | @concat held last hheld _ _ hwhole ih =>
    have htaken : taken held last = last := by
      by_contra hne
      exact hwhole (isWhole_of_taken hne)
    have hlast : ';' ∉ last := fun hmem => hwhole ⟨by rwa [htaken], by rwa [sqlOf, htaken]⟩
    by_cases hempty : held = []
    · subst hempty
      have hmem : ';' ∈ last := by
        simpa [joined] using Statement.semicolon_mem (by decide) hcomplete
      exact absurd hmem hlast
    · rw [joined_concat hempty] at hcomplete ⊢
      rcases Statement.closesLate_of_isComplete hlast hcomplete with hbefore | hlate
      · exact (ih hbefore).concat hlast hcomplete
      · exact hlate

/-- What is gathered are lines that more lines have to follow. -/
def Gathers (r : Reading) : Prop := ∃ held, Open held ∧ r.buffer = joined held

theorem Gathers.of_empty (h : r.buffer = []) : Gathers r := ⟨[], .nil, h⟩

theorem Gathers.isComplete_iff (h : Gathers r) :
    Statement.isComplete r.buffer ↔ ClosesLate r.buffer := by
  obtain ⟨held, hopen, hbuffer⟩ := h
  rw [hbuffer]
  exact hopen.isComplete_iff

private theorem gather_buffer (hopen : Open held) (h : r.buffer = joined held) (line : List Char) :
    (r.gather line).buffer = joined (held ++ [line]) := by
  by_cases hempty : held = []
  · subst hempty
    have hbuffer : r.buffer = [] := h
    simp [Reading.gather, hbuffer, joined]
  · have hne : r.buffer ≠ [] := h ▸ hopen.joined_ne_nil hempty
    rw [joined_concat hempty, ← h, Reading.gather, if_neg (by simpa using hne)]

/-- Text that is gathered and not run is not complete with its last line, or has no content. -/
private theorem remaining_of_planGathered (h : planGathered interactive r line = .rest r') :
    ¬ (';' ∈ line ∧ Statement.isComplete r.buffer) ∧
      r' = if Statement.isBlank r.buffer then r.clear else r := by
  unfold planGathered at h
  dsimp only at h
  split at h
  · unfold Plan.judged at h
    split at h
    · cases hcomplete : Statement.isComplete r.buffer <;> rw [hcomplete] at h
      · exact ⟨by simp, (Plan.rest.inj h).symm⟩
      · cases h
    · cases h
  · rename_i hline
    exact ⟨fun hwhole => hline (List.contains_iff_mem.2 hwhole.1), (Plan.rest.inj h).symm⟩

/-- A line is gathered as it is taken. -/
private theorem planGathered_of_planSql (hbuffer : r.buffer = joined held)
    (h : planSql interactive r line = .rest r') :
    planGathered interactive (r.gather (taken held line)) (taken held line) = .rest r' := by
  unfold planSql at h
  dsimp only at h
  split at h
  · rename_i hterminator
    unfold Plan.judged at h
    split at h
    · simpa [taken, hterminator, hbuffer] using h
    · cases h
  · rename_i hterminator
    rwa [taken, if_neg (by simp [hterminator])]

/-- A line after which there is nothing to do is gathered, or dropped with those before it. -/
theorem Gathers.of_plan (h : Gathers r) (hplan : plan interactive r line = .rest r') : Gathers r' := by
  unfold plan at hplan
  dsimp only at hplan
  split at hplan
  · cases hplan
    exact h
  · split at hplan
    · cases hplan
    · rename_i hdot
      obtain ⟨held, hopen, hbuffer⟩ := h
      have hgathered := planGathered_of_planSql (r := { r with lines := r.lines + 1 }) hbuffer hplan
      have hsql := gather_buffer (r := { r with lines := r.lines + 1 }) hopen hbuffer (taken held line)
      generalize ({ r with lines := r.lines + 1 } : Reading).gather (taken held line) = r₁
        at hgathered hsql
      obtain ⟨hnot, rfl⟩ := remaining_of_planGathered hgathered
      split
      · exact .of_empty rfl
      · rename_i hblank
        have hwhole : ¬ IsWhole held line := fun hw => hnot ⟨hw.1, hsql ▸ hw.2⟩
        have htaken : taken held line = line := by
          by_contra hne
          exact hwhole (isWhole_of_taken hne)
        rw [htaken] at hsql
        have hfirst : held = [] → line.head? ≠ some '.' := by
          rintro rfl hhead
          have hempty : r.buffer = [] := hbuffer
          exact hdot (by simp [hempty, hhead])
        exact ⟨_, .concat hopen hfirst (hsql ▸ hblank) hwhole, hsql⟩

/-- Whatever comes of a line, what is gathered then are lines that more have to follow. -/
theorem Step.gathers {done? : Option (Job × Outcome)} (h : Step p done? q) (hp : Gathers p.reading) :
    Gathers q.reading := by
  cases h with
  | rest hmeets hplan => exact hp.of_plan hplan
  | @done j r rest o s s' hasks =>
    have hbuffer : r.buffer = [] := hasks.continues.2.2.1
    cases o <;> exact .of_empty hbuffer
  | broken => exact .of_empty rfl
  | interrupted => exact .of_empty rfl

theorem Course.gathers {l : List Turn} (h : Course p l q) (hp : Gathers p.reading) : Gathers q.reading := by
  induction h with
  | here => exact hp
  | step hstep _ ih => exact ih (hstep.gathers hp)

/-- A file starts with nothing gathered. -/
theorem Visits.gathers {trail : List Nat} (h : Visits p trail q) (hp : Gathers p.reading) :
    Gathers q.reading := by
  induction h with
  | here => exact hp
  | step hstep _ ih => exact ih (hstep.gathers hp)
  | opened hopens _ ih =>
    obtain ⟨-, -, -⟩ := hopens
    exact ih (.of_empty rfl)

/-! The end of a reading. -/

/-- No more is read at the place, for a reason other than a failure. This is the scene then, where nothing has
been told as yet of what is left over. -/
inductive Place.EndsIn (p : Place) : Scene Console → Prop where
  | halted {s : Scene Console} (h : isReady p.interactive p.reading p.scene = (.ok false, s)) :
      p.EndsIn s
  | exhausted {s s' : Scene Console} (hready : p.IsReady s) (hfetch : p.input.fetch s.world = .nothing)
      (hend : endInput p.interactive s = (.ok (), s')) : p.EndsIn s'
  | stopped {line : List Char} {r : Reading} {rest : Input} {s s' : Scene Console}
      (hasks : p.Asks (.command line) r rest s) (hline : commandLine p.feed line s = (.ok .stop, s')) :
      p.EndsIn s'

/-- What is told at the end of what is left over there: nothing if it has no content, and else all of it. -/
inductive Place.TellsLeftover (p : Place) : Except Failure Outcome × Scene Console → Prop where
  | nothing {s : Scene Console} (hends : p.EndsIn s) (hblank : Statement.isBlank p.reading.buffer) :
      p.TellsLeftover (.ok (if p.reading.errors = 0 then .success else .error), s)
  | leftover {s : Scene Console} (hends : p.EndsIn s) (hblank : ¬ Statement.isBlank p.reading.buffer) :
      p.TellsLeftover (.ok .error, s.noted (.wrote .stderr
        ("Error: incomplete SQL: " ++ String.ofList p.reading.buffer ++ "\n")))

theorem conclude_of_content (hblank : ¬ Statement.isBlank r.buffer) (s : Scene Console) :
    conclude r s = (.ok .error, s.noted (.wrote .stderr
      ("Error: incomplete SQL: " ++ String.ofList r.buffer ++ "\n"))) := by
  have hne : r.buffer ≠ [] := fun hempty => hblank (hempty ▸ rfl)
  unfold conclude
  rw [if_neg (by simp [hblank, hne])]
  exact congrArg (fun text => (Except.ok Outcome.error, s.noted (.wrote .stderr text))) String.ofList_toList

theorem Place.EndsIn.tells {s : Scene Console} (h : p.EndsIn s) : p.TellsLeftover (conclude p.reading s) := by
  by_cases hblank : Statement.isBlank p.reading.buffer
  · unfold conclude
    rw [if_pos (by simp [hblank])]
    exact .nothing h hblank
  · rw [conclude_of_content hblank]
    exact .leftover h hblank

/-- Reading that ends at a place without a failure tells of what is left over there. -/
theorem Closes.tells {x : Except Failure Outcome × Scene Console} (h : Closes p x) :
    p.TellsLeftover x ∨ ∃ f, x.1 = .error f := by
  cases h with
  | halted h => exact .inl (Place.EndsIn.halted h).tells
  | @exhausted s hready hfetch =>
    left
    obtain ⟨s', hend⟩ : ∃ s', endInput p.interactive s = (.ok (), s') := by
      cases p.interactive <;> exact ⟨_, rfl⟩
    rw [Act.bind_ok hend]
    exact (Place.EndsIn.exhausted hready hfetch hend).tells
  | @stopped j r rest s s' hasks hjob =>
    left
    cases j with
    | sql => exact absurd hjob runWhole_ne_stop
    | command line =>
      obtain ⟨herrors, -, hbuffer, hempty⟩ := hasks.continues
      have hsame : conclude r = conclude p.reading := by
        unfold conclude
        rw [herrors, hbuffer, show p.reading.buffer = [] from hempty line rfl]
      rw [hsame]
      exact (Place.EndsIn.stopped hasks hjob).tells
  | lost => exact .inr ⟨_, rfl⟩
  | unjudged => exact .inr ⟨_, rfl⟩
  | failed => exact .inr ⟨_, rfl⟩

/-- What is gathered is complete exactly where it has closed late. -/
def Place.IsUnfinished (p : Place) : Prop :=
  Statement.isComplete p.reading.buffer ↔ ClosesLate p.reading.buffer

/-- Wherever reading comes, from its start on and in the files that are read on the way, what is gathered is
no complete SQL unless it has closed late. Each of these inputs is read to a place where it ends, and unless
reading fails there it tells of what is left over at that place, which is no complete SQL either unless it
has closed late. -/
theorem Visits.tells_leftover {trail : List Nat} (h : Visits p trail q) (hp : p.reading = {}) :
    q.IsUnfinished ∧ ∃ l q', Course q l q' ∧ Closes q' q.read ∧ q'.IsUnfinished ∧
      (q'.TellsLeftover q.read ∨ ∃ f, q.read.1 = .error f) := by
  have hq := h.gathers (.of_empty (congrArg Reading.buffer hp))
  obtain ⟨l, q', hcourse, hcloses⟩ := exists_course q
  exact ⟨hq.isComplete_iff, l, q', hcourse, hcloses, (hcourse.gathers hq).isComplete_iff, hcloses.tells⟩

/-- A file that holds a finished statement, and behind it a block comment of two lines. -/
def lateFile : Scene Console where
  world := { files := { contents := [(["tmp", "work", "f"], Text.utf8 "a; /*\n*/\n".toList)] } }
  own := {}

def lateSource : Source := { path := ["tmp", "work", "f"], reader := { ends := .unified } }

private theorem isComplete_unclosed : Statement.isComplete "a; /*".toList = false := by
  have hopen : Statement.Reads "a; /*".toList
      [⟨.other, ['a']⟩, ⟨.semicolon, [';']⟩, ⟨.blank, [' ']⟩] ['/', '*'] :=
    .cons rfl (.cons rfl (.cons rfl (.nil _)))
  rw [Statement.isComplete, hopen.isCompleteFrom_eq, Statement.isCompleteFrom]
  rfl

private theorem plan_unclosed : plan false {} "a; /*".toList =
    .rest { buffer := "a; /*".toList, startLine := 1, lines := 1 } := by
  have hblank : Statement.isBlank "a; /*".toList = false := by rfl
  have hterminator : Statement.isTerminator "a; /*".toList = false := by rfl
  have hhead : ("a; /*".toList.head? == some '.') = false := by rfl
  have hjudged : Statement.isJudged "a; /*".toList = true := by rfl
  have hcomplete := isComplete_unclosed
  generalize "a; /*".toList = line at *
  simp [plan, planSql, planGathered, Plan.judged, Reading.gather, hblank, hterminator, hhead, hjudged,
    hcomplete]

/-- What is left of the file where it is read as far as its ninth byte, with this text ahead. -/
private def lateRest (fuel : Nat) (ahead : List Char) : Input :=
  .file fuel { path := ["tmp", "work", "f"], reader := { ends := .unified, passed := 9, ahead } }

/-- The lines of the file are read one after the other, and it ends behind them. -/
private theorem read_lateFile : (Place.opened 328 lateSource lateFile).read =
    (.ok .error, lateFile.noted (.wrote .stderr "Error: incomplete SQL: a; /*\n*/\n")) := by
  let p₁ : Place := .opened 328 lateSource lateFile
  let p₂ := p₁.onward (lateRest (9 + 99997 + 2) "*/\n".toList)
    { buffer := "a; /*".toList, startLine := 1, lines := 1 } lateFile
  let p₃ := p₂.onward (lateRest (9 + 99997 + 1) [])
    { buffer := "a; /*\n*/".toList, startLine := 1, lines := 2 } lateFile
  -- as many lines may be read as the file has bytes, and `maxAddedLines` more
  have hinput : p₁.input = .file (9 + 99997 + 3) lateSource := by
    have hbytes : ((lateFile.world.files.content? lateSource.path).getD []).length = 9 := by decide
    show Input.file _ _ = _
    rw [hbytes]
    rfl
  have hfirst : p₁.input.fetch lateFile.world =
      .line "a; /*\n".toList (lateRest (9 + 99997 + 2) "*/\n".toList) := by
    rw [hinput]
    refine Input.fetch_file ?_
    show Text.Reader.lineFrom? _ (97 :: Text.utf8 "; /*\n*/\n".toList) = _
    unfold Text.Reader.lineFrom?
    rfl
  have hend : (lateRest (9 + 99997 + 1) []).fetch lateFile.world = .nothing := by
    have hline : ({ ends := .unified, passed := 9 } : Text.Reader).line?
        ((lateFile.world.files.content? ["tmp", "work", "f"]).getD []) =
          some ([], { ends := .unified, passed := 9 }) := by
      show Text.Reader.lineFrom? _ [] = _
      unfold Text.Reader.lineFrom?
      rfl
    rw [lateRest, Input.fetch, hline]
  have hready {r : Reading} (hr : r.errors = 0) : isReady false r lateFile = (.ok true, lateFile) :=
    isReady_of_ready ⟨.inl hr, rfl⟩
  have hmeets₁ : p₁.Meets "a; /*\n".toList _ lateFile := ⟨hready rfl, hfirst⟩
  have hmeets₂ : p₂.Meets "*/\n".toList _ lateFile := ⟨hready rfl, Input.fetch_file rfl⟩
  have hstep₁ : Step p₁ none p₂ := .rest hmeets₁ plan_unclosed
  have hstep₂ : Step p₂ none p₃ := .rest hmeets₂ rfl
  have hread : p₃.read = conclude p₃.reading lateFile :=
    (Closes.exhausted (p := p₃) (s := lateFile) (hready rfl) hend).read_eq
  have hblank : ¬ Statement.isBlank p₃.reading.buffer := by
    rw [show Statement.isBlank p₃.reading.buffer = false from rfl]
    decide
  calc p₁.read = p₂.read := hstep₁.read_eq
    _ = p₃.read := hstep₂.read_eq
    _ = conclude p₃.reading lateFile := hread
    _ = (.ok .error, lateFile.noted (.wrote .stderr ("Error: incomplete SQL: " ++
          String.ofList "a; /*\n*/".toList ++ "\n"))) := conclude_of_content hblank lateFile
    _ = _ := by rw [String.ofList_toList]; rfl

/-- The file is left over as a whole, in a reading that another input has asked for. -/
theorem leftover_in_file :
    let p : Place := .start false (inputOfText ".read f\n".toList) lateFile
    let q : Place := .opened 328 lateSource lateFile
    p.reading = {} ∧ Visits p [0] q ∧ q.IsUnfinished ∧
      q.read = (.ok .error, lateFile.noted (.wrote .stderr "Error: incomplete SQL: a; /*\n*/\n")) := by
  intro p q
  have hread : p.Asks (.command ".read f".toList) { lines := 1 } (.items false []) lateFile :=
    ⟨".read f\n".toList, ⟨isReady_of_ready ⟨.inl rfl, rfl⟩, rfl⟩, rfl⟩
  have hrequests : Requests ".read f".toList lateFile lateSource lateFile := ⟨"read", ["f"], rfl, rfl, rfl⟩
  have hvisits : Visits p [0] q := .opened (.mk hread hrequests rfl) (.here q)
  exact ⟨rfl, hvisits, (hvisits.tells_leftover rfl).1, read_lateFile⟩

/-- A statement whose block comment ends on the next line is complete, and reported as incomplete at
the end of the input without having been run. -/
theorem readInput_reports_complete :
    Statement.isComplete "a; /*\n*/".toList ∧
      (readInput false (inputOfText "a; /*\n*/\n".toList) untouched).2.world.given = [] ∧
      (readInput false (inputOfText "a; /*\n*/\n".toList) untouched).2.world.written .stderr =
        ["Error: incomplete SQL: a; /*\n*/\n"] := by
  have hread : Statement.Reads "a; /*\n*/".toList
      [⟨.other, ['a']⟩, ⟨.semicolon, [';']⟩, ⟨.blank, [' ']⟩, ⟨.blank, "/*\n*/".toList⟩] [] :=
    .cons rfl (.cons rfl (.cons rfl (.cons rfl (.nil []))))
  have hfull : isFull "a; /*".toList "a; /*".toList untouched = (.ok false, untouched) := by
    unfold isFull judge
    rw [isComplete_unclosed]
    rfl
  have hready : Ready 0 untouched := ⟨.inl rfl, rfl⟩
  have hassemble : assemble [] "a; /*".toList untouched = (.ok "a; /*".toList, untouched) := rfl
  have hfirst : takeLine readSource false {} (Text.chomp "a; /*\n".toList) untouched =
      (.ok (true, { buffer := "a; /*".toList, startLine := 1, lines := 1 }), untouched) :=
    (Act.bind_ok hassemble _).trans (Act.bind_ok hfull _)
  have hsecond : takeLine readSource false { buffer := "a; /*".toList, startLine := 1, lines := 1 }
      (Text.chomp "*/\n".toList) untouched =
      (.ok (true, { buffer := "a; /*\n*/".toList, startLine := 1, lines := 2 }), untouched) := rfl
  have hall : readInput false (inputOfText "a; /*\n*/\n".toList) untouched =
      conclude { buffer := "a; /*\n*/".toList, startLine := 1, lines := 2 } untouched := by
    refine (readItems_of_taken hready (by decide) hfirst _).trans ?_
    refine (readItems_of_taken hready (by decide) hsecond _).trans ?_
    exact readItems_nil hready
  refine ⟨hread.isComplete_eq, ?_, ?_⟩ <;> rw [hall] <;> rfl

end SqlConsole.Console

import SqlConsole.Proofs.Console.Move
import SqlConsole.Proofs.Console.Told

/-! Everything that the console does with its inputs comes down to moves, and so do the inputs in files that
lines ask for. -/
namespace SqlConsole.Console

variable {P : List Char → Prop} {s s' : Scene Console}

/-! Lines. -/

theorem moves_told {k : Sink} (hk : k.isStream) (text : String) : Moves P s (s.noted (.wrote k text)) :=
  .single (.wrote hk text s)

theorem moves_echoed (line : List Char) : Moves P s (echoed line s) := by
  unfold echoed
  split
  · exact moves_told rfl _
  · exact .refl s

/-- The user is told of what has failed. -/
theorem reported_eq (x : Act Console Outcome) (s : Scene Console) :
    reported x s = match x s with
      | (.ok outcome, t) => (.ok outcome, t)
      | (.error f, t) =>
        match f.message? with
        | some message => (.ok .error, t.noted (.wrote .stderr ("Error: " ++ message ++ "\n")))
        | none => (.error f, t) := by
  unfold reported
  rw [Act.bind_apply, Act.attempt]
  rcases x s with ⟨f | outcome, t⟩
  · dsimp only
    cases f.message? with
    | none => rfl
    | some message =>
      show (Except.ok Outcome.error, t.noted (.wrote .stderr (String.ofList _))) = _
      rw [String.ofList_toList]
  · rfl

theorem moves_reported {x : Act Console Outcome} (h : Moves P s (x s).2) : Moves P s (reported x s).2 := by
  rw [reported_eq]
  rcases hx : x s with ⟨f | outcome, t⟩ <;> rw [hx] at h
  · dsimp only
    cases f.message? with
    | none => exact h
    | some message => exact h.trans (moves_told rfl _)
  · exact h

/-- What becomes of the command to read a file. -/
theorem readFile_cases (feed : Source → Act Console Outcome) (file : String) (s : Scene Console) :
    (∃ source, Act.openSource? file .unified s = (.ok (some source), s) ∧
        readFile feed file s = feed source s) ∨
      readFile feed file s = (.error (.complaint (.cannotOpen file)), s) ∨
      readFile feed file s = (.error .zeroCharacter, s) ∧ '\x00' ∈ file.toList := by
  unfold readFile
  rcases Origin.openSource?_eq file .unified s with ⟨source?, heq⟩ | ⟨heq, hzero⟩
  · rw [Act.bind_ok heq]
    cases source? with
    | none => exact .inr (.inl rfl)
    | some source => exact .inl ⟨source, heq, rfl⟩
  · exact .inr (.inr ⟨Act.bind_error heq _, hzero⟩)

/-- The line asks for a file, from the scene in which it is done. -/
def AsksFor (line : List Char) (s : Scene Console) (source : Source) : Prop :=
  ∃ arguments, Means line .read arguments ∧
    Act.openSource? (arguments.headD "") .unified s = (.ok (some source), s)

theorem AsksFor.requests {line : List Char} {source : Source} (h : AsksFor line (echoed line s) source) :
    Requests line s source (echoed line s) := by
  obtain ⟨arguments, ⟨typed, hwords, hfind⟩, hopen⟩ := h
  exact ⟨typed, arguments, hwords, hfind, hopen⟩

theorem moves_dotLine {line : List Char} {depth : Nat} (hP : P line)
    (hfile : ∀ d source, depth = d + 1 → AsksFor line s source →
      Moves P s (Place.opened d source s).read.2) :
    Moves P s (dotLine (readNested depth) line s).2 := by
  by_cases hline : IsReading line
  · obtain ⟨arguments, hmeans⟩ := hline
    rw [dotLine_of_means hmeans]
    refine moves_reported ?_
    show Moves P s (readFile (readNested depth) (arguments.headD "") s).2
    rcases readFile_cases (readNested depth) (arguments.headD "") s with ⟨source, hopen, heq⟩ | heq | ⟨heq, -⟩
      <;> rw [heq]
    · cases depth with
      | zero => exact .refl s
      | succ d => exact hfile d source rfl ⟨arguments, hmeans, hopen⟩
    · exact .refl s
    · exact .refl s
  · exact .single (.line hP hline _ s)

/-! Reading. -/

theorem moves_isReady (interactive : Bool) (r : Reading) : Moves P s (isReady interactive r s).2 := by
  have hmark : Moves P s { s with own := { s.own with interrupted := false } } := .single (.own _ rfl rfl)
  unfold isReady
  rw [Act.bind_ok (show Act.own s = (.ok s.own, s) from rfl)]
  dsimp only
  split
  · exact .refl s
  · split
    · exact .refl s
    · cases interactive with
      | false => exact hmark
      | true => exact hmark.trans (moves_told rfl _)

/-- The scene in which the user has stopped what was going on: the engine is told if there is one, and
there is a mark at the keyboard. -/
def stopped (interactive : Bool) (s : Scene Console) : Scene Console :=
  let marked := { s with own := { s.own with interrupted := true } }
  let told := if s.own.db.isSome then marked.noted (.engine .interrupt) else marked
  if interactive then told.noted (.wrote .stderr "^C\n") else told

theorem interrupt_apply (interactive : Bool) (s : Scene Console) :
    interrupt interactive s = (.ok (), stopped interactive s) := by
  obtain ⟨w, session, db, filename, fileSystem, interrupted, _, exitCode⟩ := s
  cases db <;> cases interactive <;> rfl

theorem moves_interrupt (interactive : Bool) : Moves P s (interrupt interactive s).2 := by
  rw [interrupt_apply]
  let marked : Scene Console := { s with own := { s.own with interrupted := true } }
  have hmarked : Moves P s marked := .single (.own _ rfl rfl)
  have htold : Moves P s (if s.own.db.isSome then marked.noted (.engine .interrupt) else marked) := by
    split
    · rename_i hdb
      exact hmarked.trans (.single (.interrupt hdb))
    · exact hmarked
  unfold stopped
  dsimp only
  split
  · exact htold.trans (moves_told rfl _)
  · exact htold

theorem endInput_ok (interactive : Bool) (s : Scene Console) :
    endInput interactive s = (.ok (), (endInput interactive s).2) := by
  cases interactive <;> rfl

theorem moves_endInput (interactive : Bool) : Moves P s (endInput interactive s).2 := by
  cases interactive with
  | false => exact .refl s
  | true => exact moves_told rfl _

theorem moves_conclude (r : Reading) : Moves P s (conclude r s).2 := by
  by_cases h : r.IsUnended
  · rw [conclude_unended h]
    exact moves_told rfl _
  · rw [conclude_ended h]
    exact .refl s

theorem moves_runWhole (sql : String) (line? : Option Int) : Moves P s (runWhole sql line? s).2 := by
  have heq : (runWhole sql line? s).2 = (runSql sql line? s).2 := by
    unfold runWhole
    rw [Act.bind_apply]
    rcases runSql sql line? s with ⟨f | n, t⟩ <;> rfl
  rw [heq]
  exact .single (.sql ..)

theorem runSql_of_runWhole {sql : String} {line? : Option Int} {f : Failure}
    (h : runWhole sql line? s = (.error f, s')) : runSql sql line? s = (.error f, s') := by
  unfold runWhole at h
  rw [Act.bind_apply] at h
  rcases hrun : runSql sql line? s with ⟨g | n, t⟩ <;> rw [hrun] at h <;> cases h
  rfl

/-- Every dot line that reading comes to from there is of one kind. -/
def Place.Only (P : List Char → Prop) (p : Place) : Prop :=
  ∀ trail q, Visits p trail q → ∀ line r rest s, q.Asks (.command line) r rest s → P line

/-- Every job that the next line may ask for is done by moves. -/
def Place.Acts (P : List Char → Prop) (p : Place) : Prop :=
  ∀ j r rest s, p.Asks j r rest s → Moves P s (j.perform p.feed s).2

variable {p q : Place}

theorem Place.IsReady.moves (h : p.IsReady s) : Moves P p.scene s := by
  have hmoves := moves_isReady (P := P) (s := p.scene) p.interactive p.reading
  rwa [show isReady _ _ _ = _ from h] at hmoves

theorem Place.Asks.moves {j : Job} {r : Reading} {rest : Input} (h : p.Asks j r rest s) :
    Moves P p.scene s := by
  obtain ⟨text, hmeets, -⟩ := h.meets
  exact hmeets.ready.moves

theorem Place.Asks.acts {j : Job} {r : Reading} {rest : Input} {ending : Except Failure Outcome}
    (h : p.Asks j r rest s) (hacts : p.Acts P) (hjob : j.perform p.feed s = (ending, s')) :
    Moves P p.scene s' := by
  have hmoves := hacts j r rest s h
  rw [hjob] at hmoves
  exact h.moves.trans hmoves

theorem Step.moves {done? : Option (Job × Outcome)} (h : Step p done? q) (hacts : p.Acts P) :
    Moves P p.scene q.scene := by
  cases h with
  | rest hmeets => exact hmeets.ready.moves
  | done hasks hjob => exact hasks.acts hacts hjob
  | broken hasks hjob => exact (hasks.acts hacts hjob).trans (moves_interrupt _)
  | interrupted hready => exact hready.moves.trans (moves_interrupt _)

theorem Closes.moves {x : Except Failure Outcome × Scene Console} (h : Closes p x) (hacts : p.Acts P) :
    Moves P p.scene x.2 := by
  cases h with
  | @halted s h =>
    have hmoves := moves_isReady (P := P) (s := p.scene) p.interactive p.reading
    rw [h] at hmoves
    exact hmoves.trans (moves_conclude _)
  | @exhausted s hready =>
    rw [Act.bind_ok (endInput_ok ..)]
    exact hready.moves.trans ((moves_endInput _).trans (moves_conclude _))
  | stopped hasks hjob => exact (hasks.acts hacts hjob).trans (moves_conclude _)
  | lost hready => exact hready.moves
  | unjudged hmeets => exact hmeets.ready.moves
  | failed hasks hjob => exact hasks.acts hacts hjob

theorem Place.Only.step {done? : Option (Job × Outcome)} (hp : p.Only P) (h : Step p done? q) : q.Only P :=
  fun trail q' hvisits => hp trail q' (.step h hvisits)

theorem Place.Only.opens (hp : p.Only P) (h : Opens p q) : q.Only P :=
  fun trail q' hvisits => hp (p.reading.lines :: trail) q' (.opened h hvisits)

theorem Course.moves {l : List Turn} (h : Course p l q) (hp : p.Only P)
    (hacts : ∀ p' : Place, p'.depth = p.depth → p'.Only P → p'.Acts P) :
    Moves P p.scene q.scene ∧ q.Only P ∧ q.depth = p.depth := by
  induction h with
  | here p => exact ⟨.refl _, hp, rfl⟩
  | @step p q q' done? l hstep _ ih =>
    have hdepth := hstep.frame.1
    obtain ⟨hmoves, honly, hdepth'⟩ := ih (hp.step hstep) fun p' h => hacts p' (h.trans hdepth)
    exact ⟨(hstep.moves (hacts p rfl hp)).trans hmoves, honly, hdepth'.trans hdepth⟩

/-- What is done at a place where reading ends, or on the way there. -/
private theorem read_moves (hp : p.Only P)
    (hacts : ∀ p' : Place, p'.depth = p.depth → p'.Only P → p'.Acts P) : Moves P p.scene p.read.2 := by
  obtain ⟨l, q, hcourse, hcloses⟩ := exists_course p
  obtain ⟨hmoves, honly, hdepth⟩ := hcourse.moves hp hacts
  exact hmoves.trans (hcloses.moves (hacts q hdepth honly))

/-- By induction on how deep files may still go: what is read in a file is done by moves, so that the line
that asks for the file is. -/
theorem Place.Only.acts (hp : p.Only P) : p.Acts P := by
  induction hdepth : p.depth using Nat.strongRecOn generalizing p with
  | ind depth ih =>
    intro j r rest s hasks
    cases j with
    | sql text line? => exact moves_runWhole text line?
    | command line =>
      show Moves P s (commandLine p.feed line s).2
      rw [commandLine_eq]
      have hP := hp [] p (.here p) line r rest s hasks
      refine (moves_echoed line).trans (moves_dotLine hP fun d source hd hfile => ?_)
      have honly := hp.opens (.mk hasks hfile.requests hd)
      refine read_moves honly fun p' hdepth' hp' => ih d ?_ hp' hdepth'
      rw [← hdepth, hd]
      exact Nat.lt_succ_self d

/-- Reading is done by moves. -/
theorem Place.Only.moves (hp : p.Only P) : Moves P p.scene p.read.2 :=
  read_moves hp fun _ _ hp' => hp'.acts

/-- Where reading comes to it has come by moves. -/
theorem Visits.moves {trail : List Nat} (h : Visits p trail q) (hp : p.Only P) :
    Moves P p.scene q.scene := by
  induction h with
  | here p => exact .refl _
  | step hstep _ ih => exact (hstep.moves hp.acts).trans (ih (hp.step hstep))
  | opened hopens _ ih =>
    refine Moves.trans ?_ (ih (hp.opens hopens))
    obtain ⟨hasks, hrequests, -⟩ := hopens
    obtain ⟨typed, arguments, hwords, hfind, hopen⟩ := hrequests.opens
    rcases Origin.openSource?_eq (arguments.headD "") .unified (echoed _ _) with ⟨source?, heq⟩ | ⟨heq, -⟩
    · obtain ⟨-, rfl⟩ := Prod.mk.inj (hopen.symm.trans heq)
      exact hasks.moves.trans (moves_echoed _)
    · cases hopen.symm.trans heq

end SqlConsole.Console

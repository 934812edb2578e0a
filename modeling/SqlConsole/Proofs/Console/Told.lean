import SqlConsole.Proofs.Console.Bail
import SqlConsole.Proofs.Console.Oblivious
import SqlConsole.Proofs.World.Tells

/-! The user is told of every error, in words that start alike. -/
namespace SqlConsole

namespace Execute
open Act (Oblivious Tells)
variable {σ : Type} {session : Session} {db : Connection} {each : Layout.Row → Act σ Bool}
  {report : Engine.Error → Act σ Unit}

/-- Where the engine refuses a statement the report of that tells so, if every report does. -/
theorem tells_turn (heach : ∀ row, Oblivious (each row)) (hreport : ∀ e, Oblivious (report e))
    (htells : ∀ e, Tells (fun _ => True) (report e)) (statement : List Char) :
    Tells (fun refused => refused = true) (turn session db each (some report) statement) := by
  refine .ensuring (.bind_any (oblivious_runStatement heach ..).attempt fun ending => ?_)
    (oblivious_setStatement none)
  rcases ending with f | _
  · cases f with
    | engine e =>
      exact .bind (htells e) (hreport e) (fun _ _ => .pure true) fun _ h => absurd trivial h
    | _ => exact .fail _
  · exact .pure nofun

theorem tells_runAll (heach : ∀ row, Oblivious (each row)) (hreport : ∀ e, Oblivious (report e))
    (htells : ∀ e, Tells (fun _ => True) (report e)) (statements : List (List Char)) :
    Tells (fun failed => failed ≠ 0) (runAll session db each (some report) statements) := by
  induction statements with
  | nil => exact .pure fun h => h rfl
  | cons p ps ih =>
    refine .bind (tells_turn heach hreport htells p) (oblivious_turn heach hreport ..) ?_ ?_
    · rintro _ rfl
      exact .pure 1
    · intro refused hrefused
      rw [if_neg hrefused]
      exact ih

/-- Where some statement of a text fails the user is told, if every report tells. -/
theorem tells_run (heach : ∀ row, Oblivious (each row)) (hreport : ∀ e, Oblivious (report e))
    (htells : ∀ e, Tells (fun _ => True) (report e)) (sql : String) :
    Tells (fun failed => failed ≠ 0) (run session db each (some report) sql) := by
  refine .bind (tells_runAll heach hreport htells _) (oblivious_runAll heach hreport ..)
    (fun failed _ => ?_) fun failed hfailed => ?_
  · split
    · exact .bind (.fail _) fun _ => .pure failed
    · exact .bind (.pure ()) fun _ => .pure failed
  · split
    · exact .bind_any (.fail _) fun _ => .pure hfailed
    · exact .pure hfailed

end Execute

namespace Console
open Act (Oblivious Tells)

theorem tellsError_errorText (line? : Option Int) (e : Engine.Error) :
    TellsError (errorText line? e) := by
  have hplain : TellsError "Error: " := ⟨" ", rfl⟩
  have hnear : TellsError "Error: near line " := ⟨" near line ", rfl⟩
  cases line? with
  | none => exact (hplain.append _).append _
  | some n => exact (((hnear.append _).append _).append _).append _

theorem tells_runSql (sql : String) (line? : Option Int) :
    Tells (fun n => n ≠ 0) (runSql sql line?) := by
  refine .bind_any oblivious_connection.attempt fun opened => ?_
  rcases opened with f | db
  · cases f with
    | complaint c => exact .told (.append (.append ⟨" ", rfl⟩ _) _) 1
    | _ => exact .fail _
  · refine .bind_any .own fun c =>
      .ensuring (.within (Execute.tells_run ?_ ?_ ?_ sql)) (oblivious_tellUsage _)
    · intro row
      exact .bind (Layout.oblivious_writeRow ..) fun _ => .pure false
    · exact fun e => .write _ _
    · exact fun e => .write (tellsError_errorText line? e)

/-- An outcome that is an error. -/
def IsError (o : Outcome) : Prop := o = .error

theorem tells_runWhole (sql : String) (line? : Option Int) :
    Tells IsError (runWhole sql line?) := by
  refine .bind (tells_runSql sql line?) (oblivious_runSql ..) (fun _ _ => .pure _) fun n hn => ?_
  rw [not_not.1 hn]
  exact .pure nofun

section Fed
variable {feed : Source → Act Console Outcome}

theorem CommandForm.tells {x : Act Console Outcome} (h : CommandForm feed x)
    (hfeed : ∀ source, Tells IsError (feed source)) : Tells IsError x := by
  cases h with
  | done hx => exact .bind_any hx fun _ => .pure nofun
  | still o ho => exact .pure ho
  | exit argument? =>
    cases argument? with
    | none => exact .pure nofun
    | some a =>
      refine .bind_any (oblivious_integerArgument a) fun code => ?_
      split
      · exact .pure nofun
      · exact .fail _
  | read file =>
    refine .bind_any (.openSource? ..) fun source? => ?_
    cases source? with
    | none => exact .fail _
    | some source => exact hfeed source

/-- A failure of a dot command that becomes an error is told, and the command itself tells of any other
error. -/
theorem tells_dotLine (hfeed : ∀ source, Tells IsError (feed source))
    (hgrows : ∀ source, Oblivious (feed source)) (line : List Char) :
    Tells IsError (dotLine feed line) := by
  unfold dotLine
  split
  · exact .pure nofun
  · split
    · exact .told (.append (.append ⟨" unknown command or invalid arguments:  \"", rfl⟩ _) _) _
    · rename_i command _
      have hform := commandForm_runCommand feed command
      refine .bind ((hform _).tells hfeed).attempt ((hform _).oblivious hgrows).attempt ?_ ?_
      · rintro _ ⟨o, rfl, -⟩
        exact .pure o
      · intro ending hgood
        split
        · rename_i o
          exact .pure fun ho => hgood ⟨o, rfl, ho⟩
        · split
          · exact .told (.append (.append ⟨" ", rfl⟩ _) _) _
          · exact .fail _

theorem tells_perform (hfeed : ∀ source, Tells IsError (feed source))
    (hgrows : ∀ source, Oblivious (feed source)) (j : Job) : Tells IsError (j.perform feed) := by
  cases j with
  | sql text line? => exact tells_runWhole text line?
  | command line =>
    refine .bind_any .own fun c => ?_
    have hline := tells_dotLine hfeed hgrows line
    split
    · exact .bind_any (.write _ _) fun _ => hline
    · exact .bind_any (.pure ()) fun _ => hline

end Fed

/-! What was done stays done while reading goes on, and a job that fails on the way has been told. -/

section Places
variable {p q : Place} {l : List Turn} {s s' : Scene Console}

private theorem grows_ready (h : p.IsReady s) : p.scene.world.past <:+ s.world.past := by
  have hgrows := (oblivious_isReady p.interactive p.reading).suffix p.scene
  rwa [show isReady _ _ _ = _ from h] at hgrows

private theorem grows_job {j : Job} {r : Reading} {rest : Input} {ending : Except Failure Outcome}
    (h : p.Asks j r rest s) (hjob : j.perform p.feed s = (ending, s')) :
    p.scene.world.past <:+ s'.world.past := by
  obtain ⟨text, hmeets, -⟩ := h.meets
  have hgrows := (oblivious_perform (oblivious_readNested p.depth) j).suffix s
  rw [show j.perform (readNested p.depth) s = _ from hjob] at hgrows
  exact (grows_ready hmeets.ready).trans hgrows

theorem Step.grows {done? : Option (Job × Outcome)} (h : Step p done? q) :
    p.scene.world.past <:+ q.scene.world.past := by
  cases h with
  | rest hmeets => exact grows_ready hmeets.ready
  | done hasks hjob => exact grows_job hasks hjob
  | broken hasks hjob =>
    exact (grows_job hasks hjob).trans ((oblivious_interrupt p.interactive).suffix _)
  | interrupted hready =>
    exact (grows_ready hready).trans ((oblivious_interrupt p.interactive).suffix _)

theorem Step.reports {j : Job} (h : Step p (some (j, .error)) q)
    (hfeed : ∀ source, Tells IsError (p.feed source)) : p.scene.world.Reports q.scene.world := by
  cases h with
  | done hasks hjob =>
    obtain ⟨text, hmeets, -⟩ := hasks.meets
    have htells := tells_perform hfeed (oblivious_readNested p.depth) j _ _ _ hjob rfl
    exact htells.after (grows_ready hmeets.ready)

theorem Course.grows (h : Course p l q) : p.scene.world.past <:+ q.scene.world.past := by
  induction h with
  | here p => exact List.suffix_rfl
  | step hstep _ ih => exact hstep.grows.trans ih

theorem Course.reports (h : Course p l q) (hfeed : ∀ source, Tells IsError (p.feed source))
    (hfailed : ∃ t ∈ l, t.Failed) : p.scene.world.Reports q.scene.world := by
  induction h with
  | here => simp at hfailed
  | @step p q q' done? l hstep hrest ih =>
    obtain ⟨t, hmem, ht⟩ := hfailed
    rcases List.mem_cons.1 hmem with rfl | hmem
    · obtain ⟨j, rfl⟩ := ht
      exact (hstep.reports hfeed).before hrest.grows
    · have hsame : q.feed = p.feed := congrArg readNested hstep.frame.1
      exact (ih (hsame ▸ hfeed) ⟨t, hmem, ht⟩).after hstep.grows

/-! SQL that is left over is told when reading is concluded. -/

def incompleteText (buffer : List Char) : String :=
  "Error: incomplete SQL: " ++ String.ofList buffer ++ "\n"

/-- SQL is left over that has content. -/
def Reading.IsUnended (r : Reading) : Prop := r.buffer ≠ [] ∧ Statement.isBlank r.buffer = false

theorem conclude_unended {r : Reading} (h : r.IsUnended) (s : Scene Console) :
    conclude r s = (.ok .error, s.noted (.wrote .stderr (incompleteText r.buffer))) := by
  unfold conclude
  rw [if_neg (by simp [h.1, h.2])]
  show ((Act.write .stderr _ >>= _) s) = _
  show (_, s.noted (.wrote .stderr (String.ofList (incompleteText r.buffer).toList))) = _
  rw [String.ofList_toList]

theorem conclude_ended {r : Reading} (h : ¬ r.IsUnended) (s : Scene Console) :
    conclude r s = (.ok (if r.errors = 0 then .success else .error), s) := by
  unfold conclude
  rw [if_pos]
  · rfl
  · by_cases hbuffer : r.buffer = []
    · simp [hbuffer]
    · cases hblank : Statement.isBlank r.buffer with
      | true => simp
      | false => exact absurd ⟨hbuffer, hblank⟩ h

/-- What is concluded: an error where there was one, or where SQL is left over, of which the user is
told then. -/
theorem conclude_outcome {r : Reading} {o : Outcome} (h : conclude r s = (.ok o, s')) :
    o ≠ .stop ∧ (o = .error ↔ r.errors ≠ 0 ∨ r.IsUnended) ∧
      (r.IsUnended → s' = s.noted (.wrote .stderr (incompleteText r.buffer))) := by
  by_cases hunended : r.IsUnended
  · rw [conclude_unended hunended] at h
    obtain ⟨ho, rfl⟩ := Prod.mk.inj h
    cases ho
    exact ⟨nofun, iff_of_true rfl (.inr hunended), fun _ => rfl⟩
  · rw [conclude_ended hunended] at h
    obtain ⟨ho, rfl⟩ := Prod.mk.inj h
    cases ho
    by_cases hnone : r.errors = 0
    · simp [hnone, hunended]
    · simp [hnone, hunended]

/-- Reading that ends with an outcome is concluded at the place where it ends, after more has been
done at most. -/
theorem Closes.concludes {x : Except Failure Outcome × Scene Console} (h : Closes q x) {o : Outcome}
    (hx : x = (.ok o, s')) :
    ∃ s, conclude q.reading s = (.ok o, s') ∧ q.scene.world.past <:+ s.world.past := by
  cases h with
  | @halted s h =>
    have hgrows := (oblivious_isReady q.interactive q.reading).suffix q.scene
    rw [h] at hgrows
    exact ⟨s, hx, hgrows⟩
  | @exhausted s hready hfetch =>
    have hend : endInput q.interactive s = (.ok (), (endInput q.interactive s).2) := by
      cases q.interactive <;> rfl
    have hgrows : s.world.past <:+ (endInput q.interactive s).2.world.past := by
      cases q.interactive with
      | false => exact List.suffix_rfl
      | true => exact List.suffix_cons _ _
    rw [Act.bind_ok hend] at hx
    exact ⟨_, hx, (grows_ready hready).trans hgrows⟩
  | @stopped j r rest s s₁ hasks hjob =>
    obtain ⟨herrors, -, hbuffer, hcommand⟩ := hasks.continues
    refine ⟨s₁, ?_, grows_job hasks hjob⟩
    cases j with
    | sql text line? => exact absurd hjob runWhole_ne_stop
    | command line =>
      have hempty : q.reading.buffer = [] := hcommand line rfl
      have hsame : r.errors = q.reading.errors := herrors
      rw [conclude_ended fun h => h.1 hbuffer, hsame] at hx
      rwa [conclude_ended fun h => h.1 hempty]
  | lost => cases hx
  | unjudged => cases hx
  | failed => cases hx

/-- Reading that starts without an error has told of each error that it ends with. -/
theorem Place.tells_read (p : Place) (hfeed : ∀ source, Tells IsError (p.feed source))
    (hstart : p.reading.errors = 0) (hread : p.read = (.ok .error, s')) :
    p.scene.world.Reports s'.world := by
  obtain ⟨l, q, hcourse, hcloses⟩ := exists_course p
  obtain ⟨s, hconclude, hgrows⟩ := hcloses.concludes hread
  obtain ⟨-, herror, htells⟩ := conclude_outcome hconclude
  by_cases hunended : q.reading.IsUnended
  · have htold : s.world.Reports s'.world := by
      rw [htells hunended]
      exact ⟨[_], _, rfl, List.mem_singleton_self _,
        .append (.append ⟨" incomplete SQL: ", rfl⟩ _) _⟩
    exact htold.after (hcourse.grows.trans hgrows)
  · have herrors : q.reading.errors ≠ 0 := (herror.1 rfl).resolve_right hunended
    have hfailed := (hcourse.errors_iff.1 herrors).resolve_left (not_not.2 hstart)
    have hafter : s.world.past <:+ s'.world.past := by
      have hlast := (oblivious_conclude q.reading).suffix s
      rwa [hconclude] at hlast
    exact (hcourse.reports hfeed hfailed).before (hgrows.trans hafter)

end Places

/-- A file that is read tells of its errors, as do the files that it asks for. -/
theorem tells_readNested (depth : Nat) (source : Source) :
    Tells IsError (readNested depth source) := by
  induction depth generalizing source with
  | zero => exact .fail _
  | succ depth ih =>
    intro s s' o hread ho
    subst ho
    exact (Place.opened depth source s).tells_read ih rfl hread

/-- There is no error that the user is not told of, be it of a dot command, of SQL text, of a text that
is either, or of an input. An input is an error exactly where one of its jobs was, or where SQL is left
over at the place where it ends, which is told last of all; else it is a success. -/
theorem errors_are_told :
    (∀ depth line, Tells IsError (dotLine (readNested depth) line)) ∧
      (∀ sql line?, Tells (fun n => n ≠ 0) (runSql sql line?)) ∧
      (∀ text, Tells IsError (runText text)) ∧
      ∀ (p : Place) (o : Outcome) (s' : Scene Console), p.reading.errors = 0 → p.read = (.ok o, s') →
        (o = .error → p.scene.world.Reports s'.world) ∧
          ∃ l q, Course p l q ∧ Closes q (.ok o, s') ∧ o ≠ .stop ∧
            (o = .error ↔ (∃ t ∈ l, t.Failed) ∨ q.reading.IsUnended) ∧
            (q.reading.IsUnended →
              ∃ s : Scene Console, s' = s.noted (.wrote .stderr (incompleteText q.reading.buffer))) := by
  have hline (depth : Nat) (line : List Char) : Tells IsError (dotLine (readNested depth) line) :=
    tells_dotLine (tells_readNested depth) (oblivious_readNested depth) line
  refine ⟨hline, tells_runSql, fun text => ?_, fun p o s' hstart hread => ⟨?_, ?_⟩⟩
  · unfold runText
    split
    · exact hline _ _
    · exact tells_runWhole text none
  · rintro rfl
    exact p.tells_read (tells_readNested p.depth) hstart hread
  · obtain ⟨l, q, hcourse, hcloses⟩ := exists_course p
    rw [hread] at hcloses
    obtain ⟨s, hconclude, -⟩ := hcloses.concludes rfl
    obtain ⟨hstop, herror, htells⟩ := conclude_outcome hconclude
    refine ⟨l, q, hcourse, hcloses, hstop, ?_, fun h => ⟨s, htells h⟩⟩
    rw [herror, hcourse.errors_iff]
    simp [hstart]

/-- An unknown command, and SQL that is left over after it. -/
theorem errors_are_told_unended :
    let p : Place := .start false (inputOfText ".frob\nselect 3".toList) untouched
    ∃ s', p.reading.errors = 0 ∧ p.read = (.ok .error, s') ∧ untouched.world.Reports s'.world ∧
      ∃ l q, Course p l q ∧ (∃ t ∈ l, t.Failed) ∧ q.reading.IsUnended := by
  intro p
  have hfirst : p.Asks (.command ".frob".toList) { lines := 1 }
      (.items false [.line "select 3".toList]) untouched :=
    ⟨".frob\n".toList, ⟨isReady_of_ready ⟨.inl rfl, rfl⟩, rfl⟩, rfl⟩
  obtain ⟨s₁, hfrob, hready⟩ :
      ∃ s₁, (Job.command ".frob".toList).perform p.feed untouched = (.ok .error, s₁) ∧ Ready 1 s₁ :=
    ⟨_, rfl, .inr rfl, rfl⟩
  let p₁ : Place := p.onward (.items false [.line "select 3".toList]) { lines := 1, errors := 1 } s₁
  let r : Reading := { buffer := "select 3".toList, startLine := 2, lines := 2, errors := 1 }
  have hmeets : p₁.Meets "select 3".toList (.items false []) s₁ := ⟨isReady_of_ready hready, rfl⟩
  let q : Place := p₁.onward (.items false []) r s₁
  have hunended : q.reading.IsUnended := ⟨nofun, rfl⟩
  have hcourse : Course p _ q :=
    .step (.done hfirst hfrob nofun) (.step (.rest hmeets rfl) (.here q))
  have hcloses : Closes q (conclude q.reading s₁) := .exhausted (isReady_of_ready hready) rfl
  rw [conclude_unended hunended] at hcloses
  have hread := hcourse.read_eq.trans hcloses.read_eq
  have htold := (errors_are_told.2.2.2 p .error _ rfl hread).1 rfl
  exact ⟨_, rfl, hread, htold, _, q, hcourse, ⟨_, List.mem_cons_self, _, rfl⟩, hunended⟩

end Console
end SqlConsole

import SqlConsole.Proofs.Console.Candid
import SqlConsole.Proofs.Console.Indifferent
import SqlConsole.Proofs.Console.Inputs
import SqlConsole.Proofs.Console.Quit

/-! Interrupts: what becomes of the line that is being done, of the input that it is from, and of all the
inputs around that one. -/
namespace SqlConsole.Console
open Act (CandidUnless)

variable {p p' q q' : Place} {s s' : Scene Console}

theorem stopped_interrupted (interactive : Bool) (s : Scene Console) :
    (stopped interactive s).own.interrupted = true := by
  have hsame := (interrupt_eq interactive s).2
  rwa [interrupt_apply] at hsame

/-! Inputs. -/

/-- Nothing that was gathered is kept from one place to the next, and this is the scene there. No more is
read of input that is not interactive, and nothing is said about it. At the keyboard the next line is asked
for. -/
structure Place.GivesWay (p p' : Place) (s : Scene Console) : Prop where
  step : ∃ done?, Step p done? p'
  scene : p'.scene = s
  buffer : p'.reading.buffer = []
  ends : p.interactive = false → p'.IsDone ∧ p.read = (.ok (tally p'.reading.errors), s)
  resumes : p.interactive = true → p'.IsReady (prompted {} s)

/-- Where the user has stopped what was going on an input gives way. -/
theorem Step.givesWay {done? : Option (Job × Outcome)} (hstep : Step p done? p') (hscene : p'.scene = s)
    (hbuffer : p'.reading.buffer = []) (hi : s.own.interrupted = true) : p.GivesWay p' s := by
  subst hscene
  have hsame := hstep.frame.2.1
  refine ⟨⟨done?, hstep⟩, rfl, hbuffer, fun hp => ?_, fun hp => ?_⟩
  · have hp' : p'.interactive = false := hsame.trans hp
    have hdone : ¬ Ready p'.reading.errors p'.scene := fun hready => by
      rw [hready.2] at hi
      cases hi
    refine ⟨(Place.isDone_iff hp').2 hdone, ?_⟩
    have hhalted : isReady p'.interactive p'.reading p'.scene = (.ok false, p'.scene) := by
      rw [hp']
      exact isReady_of_not_ready hdone
    rw [hstep.read_eq, (Closes.halted hhalted).read_eq, conclude_of_tally hbuffer]
  · show isReady p'.interactive p'.reading p'.scene = _
    rw [hsame.trans hp, isReady_interactive, prompted, prompted, hbuffer]

/-- Reading is at the second place because a line at the first one asks for the file that this is in, or
for a file with such a line; or the places are the same. -/
inductive Around : Place → Place → Prop where
  | here (q : Place) : Around q q
  | file {p f m q : Place} {l : List Turn} (hopens : Opens p f) (hcourse : Course f l m) (h : Around m q) :
      Around p q

/-- There is a place around every one that reading comes to, in the input that it has come from. -/
theorem Visits.exists_around {trail : List Nat} (h : Visits p trail q) :
    ∃ l outer, Course p l outer ∧ Around outer q := by
  induction h with
  | here p => exact ⟨[], p, .here p, .here p⟩
  | step hstep _ ih =>
    obtain ⟨l, outer, hcourse, haround⟩ := ih
    exact ⟨_, outer, .step hstep hcourse, haround⟩
  | @opened p _ _ _ hopens _ ih =>
    obtain ⟨l, m, hcourse, haround⟩ := ih
    exact ⟨[], p, .here p, .file hopens hcourse haround⟩

/-- Where an input gives way, all of those around it do. -/
theorem Around.givesWay (h : Around p q) (hq : q.GivesWay q' s) (hi : s.own.interrupted = true) :
    ∃ p', p.GivesWay p' s := by
  induction h with
  | here => exact ⟨q', hq⟩
  | file hopens hcourse _ ih =>
    obtain ⟨m', hm⟩ := ih hq
    obtain ⟨-, hread⟩ := hm.ends (hcourse.interactive_eq.trans hopens.interactive_eq)
    obtain ⟨j, p', hstep, hscene, hbuffer⟩ := hopens.follows (hcourse.read_eq.trans hread)
    exact ⟨p', hstep.givesWay hscene hbuffer hi⟩

/-! No statement is left to be run. -/

theorem Move.idle {P : List Char → Prop} (h : Move P s s') (hs : s.world.statement = none) :
    s'.world.statement = none := by
  cases h with
  | line _ hline feed => exact (candid_dotLine (I := (· = none)) feed hline).retains _ hs
  | sql sql line? => exact (candid_runSql sql line?).retains _ hs
  | opened => exact (candid_connection (I := (· = none))).retains _ hs
  | _ => exact hs

theorem Moves.idle {P : List Char → Prop} (h : Moves P s s') (hs : s.world.statement = none) :
    s'.world.statement = none := by
  induction h with
  | refl => exact hs
  | tail _ hmove ih => exact hmove.idle ih

/-- The job is to do with the lines of a file. -/
def Job.Reads (j : Job) : Prop := ∃ line, j = .command line ∧ IsReading line

/-- The job keeps an interrupt to itself. -/
inductive Job.Hides : Job → Scene Console → Prop where
  | command {line : List Char} {s : Scene Console} (h : LineHides line (echoed line s)) :
      Hides (.command line) s
  | sql {text : String} {line? : Option Int} {s : Scene Console} (h : Mutes text line? s) :
      Hides (.sql text line?) s

theorem candid_job (feed : Source → Act Console Outcome) {j : Job} (hj : ¬ j.Reads) :
    CandidUnless (· = none) j.Hides (j.perform feed) := by
  cases j with
  | command line => exact (candid_commandLine feed fun hline => hj ⟨line, rfl, hline⟩).mono fun _ => .command
  | sql text line? => exact (candid_runWhole text line?).mono fun _ => .sql

/-! SQL text. -/

/-- From one scene to the other SQL text is given up. What stands behind one of its statements is not given
to the engine, or nothing is. -/
def GivesUp (text : String) (s s' : Scene Console) : Prop :=
  s'.world.given = s.world.given ∨ ∃ done statement later,
    Statement.runnable text.toList = done ++ statement :: later ∧
      s'.world.given = s.world.given ++ (done ++ [statement]).map String.ofList

theorem showRow_discreet (session : Session) (row : Layout.Row) : (Execute.showRow session row).Discreet := by
  refine .bind (.bind .own fun widths => ?_) fun _ => .pure false
  split
  · exact .fail _
  · exact .bind (.modifyOwn _) fun _ => .write _ _

theorem tellUsage_discreet (session : Session) : (tellUsage session).Discreet := by
  unfold tellUsage
  split
  · exact .bind .world fun _ => .bind (.modifyWorld fun _ => rfl) fun _ => .forM (fun _ => .write _ _) _
  · exact .pure ()

theorem tellUsage_failsBySink (session : Session) : (tellUsage session).FailsBySink := by
  unfold tellUsage
  split
  · exact .bind .world fun _ => .bind (.modifyWorld _) fun _ => .forM (fun _ => .write _ _) _
  · exact .pure ()

section GivenUp
variable {text : String} {line? : Option Int} {db : Connection} {t u : Scene Console}

/-- A text that is interrupted while it runs is given up, whether or not it can be told then what it used. -/
theorem run_givesUp (hdb : connection s = (.ok db, t))
    (hrun : Act.within ([] : List Int) (Execute.run t.own.session db (Execute.showRow t.own.session)
      (some (Execute.report (errorText line?))) text) t = (.error .interrupted, u)) :
    GivesUp text s (runSql text line? s).2 := by
  obtain ⟨done, rest, given, t', hrunnable, hcompletes, hconcludes⟩ := Execute.run_concludes
    t.own.session db (Execute.showRow t.own.session) (some (Execute.report (errorText line?))) text
    ⟨t.world, ([] : List Int)⟩
  have htold : (runSql text line? s).2.world.given = u.world.given := by
    rw [runSql_ok hdb, Act.ensuring_snd, hrun]
    exact congrArg Prod.fst (tellUsage_discreet t.own.session u)
  unfold Act.within at hrun
  generalize Execute.run _ _ _ _ _ _ = run at hrun hconcludes
  obtain ⟨ending, v⟩ := run
  cases hrun
  have hgives := (hcompletes.gives (showRow_discreet _)).trans (hconcludes.gives (showRow_discreet _)
    fun report hreport e => Option.some.inj hreport ▸ .write _ _)
  right
  cases hconcludes with
  | unreported hr hp he =>
    cases hr
    cases he
  | unannounced hf =>
    obtain ⟨k, fault, hf⟩ := hf
    cases hf
  | @ended _ statement later _ hf hp =>
    refine ⟨done, statement, later, hrunnable, ?_⟩
    rw [htold, ← (asked_of_connection hdb).given]
    exact hgives.1

/-- An interrupt of SQL text comes from one of its statements, or from opening the database. -/
theorem runWhole_givesUp (h : (runWhole text line?).IsInterrupted s) :
    GivesUp text s (runWhole text line? s).2 := by
  have hscene : (runWhole text line? s).2 = (runSql text line? s).2 := by
    rw [runWhole, Act.bind_apply]
    rcases runSql text line? s with ⟨_ | _, _⟩ <;> rfl
  rw [hscene]
  rcases (candid_runWhole text line?).of_isInterrupted h with ⟨db, t, u, hdb, hrun, -⟩ | hends
  · exact run_givesUp hdb hrun
  have hsql := runSql_of_runWhole (Prod.ext hends hscene)
  rcases hdb : connection s with ⟨f | db, t⟩
  · simp only [runSql, Act.bind_apply, Act.attempt, hdb] at hsql ⊢
    cases f with
    | interrupted => exact .inl (asked_of_connection hdb).given
    | _ => cases hsql
  · refine run_givesUp hdb (u := (Act.within _ _ t).2) (Prod.ext ?_ rfl)
    rw [runSql_ok hdb, Act.ensuring] at hsql
    rcases htold : tellUsage t.own.session _ with ⟨f | _, v⟩ <;> rw [htold] at hsql
    · obtain ⟨k, fault, hsink⟩ := tellUsage_failsBySink t.own.session _ f (congrArg Prod.fst htold)
      cases hsink.symm.trans (Except.error.inj (congrArg Prod.fst hsql))
    · have hend := congrArg Prod.fst hsql
      exact hend

end GivenUp

/-! Imports. -/

namespace Import

/-- Whatever becomes of the records, nothing but their insertion is done. -/
theorem executed_records (i : Import) (s : Scene Console) : ∃ rows : List (List Sql.Value),
    (i.records s).2.world.executed = s.world.executed ++ rows.map fun values => (i.insertion, values) := by
  let I : Scene Console → Prop := fun t => ∃ rows : List (List Sql.Value),
    t.world.executed = s.world.executed ++ rows.map fun values => (i.insertion, values)
  have hperform {r : Delimited.Record} {t t' : Scene Console} {x : Except Failure Unit} (ht : I t)
      (hr : Execute.perform i.session i.db (i.statement r).1 (i.statement r).2 t = (x, t')) : I t' := by
    obtain ⟨rows, hrows⟩ := ht
    refine ⟨rows ++ [(i.statement r).2], ?_⟩
    rw [Execute.executed_perform hr, hrows, List.map_append, List.append_assoc]
    rfl
  have hinsert (r : Delimited.Record) : Act.Safe I (fun _ => True) (i.insert r) := by
    intro t ht
    rcases i.insert_cases r t with ⟨t', -, hinsert, hr⟩ | ⟨given, e, t', hrefuses, hinsert⟩ <;> rw [hinsert]
    · exact hperform ht hr
    · cases hrefuses with
      | count => exact ⟨ht, trivial⟩
      | engine _ hr => exact ⟨hperform ht hr, trivial⟩
  have hrecords : Act.Safe I (fun _ => True) i.records :=
    .bind (Origin.safe_lineLimit _) fun _ => safe_insertRecords hinsert trivial trivial _ _ _
  exact hrecords.leads ⟨[], (List.append_nil _).symm⟩ (fun _ _ h => h) fun _ _ h => h.1

end Import

/-- If the line is to import a file and one of the insertions is interrupted, the transaction is undone,
and nothing is committed. -/
def RollsBack (line : List Char) (s s' : Scene Console) : Prop :=
  ∀ arguments (i : Import) t, Means line .import_ arguments → i.file = arguments.headD "" →
    i.table = arguments[1]?.getD "" → i.Breaks (echoed line s) t →
    ∃ rows : List (List Sql.Value), s'.world.executed = s.world.executed ++
      ("BEGIN", []) :: rows.map (fun values => (i.insertion, values)) ++ [("ROLLBACK", [])]

theorem executed_wrote (k : Sink) (text : String) (s : Scene Console) :
    (s.noted (.wrote k text)).world.executed = s.world.executed :=
  (World.executed_of_past rfl).trans (List.append_nil _)

theorem executed_reported (x : Act Console Outcome) (s : Scene Console) :
    (reported x s).2.world.executed = (x s).2.world.executed := by
  rw [reported_eq]
  rcases x s with ⟨f | outcome, t⟩
  · dsimp only
    cases f.message? with
    | none => rfl
    | some message => exact executed_wrote ..
  · rfl

theorem commandLine_rollsBack (feed : Source → Act Console Outcome) (line : List Char) (s : Scene Console) :
    RollsBack line s (commandLine feed line s).2 := by
  rintro arguments i t hmeans hfile htable ⟨hsep, s₁, s₂, hprepares, hbegin, hrecords⟩
  have hechoed : (echoed line s).world.executed = s.world.executed := by
    unfold echoed
    split
    · exact executed_wrote ..
    · rfl
  have himport : importFile i.file i.table (echoed line s) = i.undo .interrupted t :=
    (Import.importFile_of_prepares hprepares hsep).trans (Import.insertAll_eq hbegin hrecords)
  have hcommand : (runCommand feed .import_ arguments (echoed line s)).2 = (i.undo .interrupted t).2 := by
    have hrun : runCommand feed .import_ arguments =
        (do importFile i.file i.table; pure Outcome.success) := by
      rw [hfile, htable]
      rfl
    rw [hrun, Act.bind_apply, himport]
    rcases i.undo .interrupted t with ⟨f | _, u⟩ <;> rfl
  obtain ⟨rows, hrows⟩ := i.executed_records s₂
  rw [hrecords] at hrows
  refine ⟨rows, ?_⟩
  rw [commandLine_eq, dotLine_of_means hmeans, executed_reported, hcommand, Import.executed_undo, hrows,
    Execute.executed_perform hbegin, Import.executed_of_prepares hprepares, hechoed]
  simp

/-! Every interrupt. -/

/-- At the place there is an interrupt, which leads to the scene. Either it is the next thing to be read
there, or the engine interrupts the job that the next line asks for. What is read in a file that a line asks
for is at places of its own. -/
inductive Place.Struck (q : Place) : Option (Job × Scene Console) → Scene Console → Prop where
  | waiting {rest : Input} {s : Scene Console} (hready : q.IsReady s)
      (hfetch : q.input.fetch s.world = .interrupt rest) : Struck q none s
  | working {j : Job} {r : Reading} {rest : Input} {s : Scene Console} (hasks : q.Asks j r rest s)
      (hj : ¬ j.Reads) (hstop : (j.perform q.feed).IsInterrupted s) :
      Struck q (some (j, s)) (j.perform q.feed s).2

variable {work? : Option (Job × Scene Console)}

theorem Place.Struck.idle (h : q.Struck work? s) (hq : q.scene.world.statement = none) :
    s.world.statement = none := by
  cases h with
  | waiting hready => exact (hready.moves (P := fun _ => True)).idle hq
  | working hasks hj =>
    exact (candid_job q.feed hj).retains _ ((hasks.moves (P := fun _ => True)).idle hq)

/-- The interrupt is kept from the input, or the input gives way. -/
theorem Place.Struck.givesWay (h : q.Struck work? s) : (∃ j t, work? = some (j, t) ∧ j.Hides t) ∨
    ∃ q', q.GivesWay q' (stopped q.interactive s) := by
  cases h with
  | waiting hready hfetch =>
    have hstep := Step.interrupted hready hfetch
    rw [interrupt_apply] at hstep
    exact .inr ⟨_, hstep.givesWay rfl rfl (stopped_interrupted ..)⟩
  | @working j r rest t hasks hj hstop =>
    rcases (candid_job q.feed hj).of_isInterrupted hstop with hhides | hends
    · exact .inl ⟨j, t, rfl, hhides⟩
    · have hjob : j.perform q.feed t = (.error .interrupted, (j.perform q.feed t).2) := Prod.ext hends rfl
      have hstep := Step.broken hasks hjob
      rw [interrupt_apply] at hstep
      exact .inr ⟨_, hstep.givesWay rfl rfl (stopped_interrupted ..)⟩

/-- Wherever there is an interrupt, no statement is left to be run, an import of which an insertion is
interrupted is undone, and SQL text is given up. Unless that fails itself, or the end of a dump does, or it
cannot be told what the text used, the input gives way and so does every input around it, up to the one that
all of it is from. -/
theorem interrupt_ends_inputs {trail : List Nat} (hvisits : Visits p trail q)
    (hidle : p.scene.world.statement = none) (hstruck : q.Struck work? s') :
    s'.world.statement = none ∧
      (∀ line s, work? = some (.command line, s) → RollsBack line s s') ∧
      (∀ text line? s, work? = some (.sql text line?, s) → GivesUp text s s') ∧
      (∃ l outer, Course p l outer ∧ Around outer q) ∧
      ((∃ j s, work? = some (j, s) ∧ j.Hides s) ∨
        ∀ outer, Around outer q → ∃ p', outer.GivesWay p' (stopped q.interactive s')) := by
  have hmoves := hvisits.moves (P := fun _ => True) fun _ _ _ _ _ _ _ _ => trivial
  refine ⟨hstruck.idle (hmoves.idle hidle), fun line s hwork => ?_, fun text line? s hwork => ?_,
    hvisits.exists_around, hstruck.givesWay.imp_right ?_⟩
  · subst hwork
    cases hstruck
    exact commandLine_rollsBack q.feed line s
  · subst hwork
    cases hstruck with
    | working _ _ hstop => exact runWhole_givesUp hstop
  · rintro ⟨q', hq⟩ outer h
    exact h.givesWay hq (stopped_interrupted ..)

/-- A console whose engine has this to say of the first statement in a file. -/
def striking (fault : Option Engine.Fault) : Scene Console where
  world :=
    { script := { answers := [{ sql := "a;", fault }] }
      files := ({} : World.Files).add (World.workingFolder ++ ["f"]) (Text.utf8 "a;b;\nc;\n".toList) }
  own := { db := some { filename := ":memory:" } }

def strikingSource : Source := { path := World.workingFolder ++ ["f"], reader := { ends := .unified } }

private theorem asks_striking {s : Scene Console} (hs : s = prompted {} (striking (some .interrupted))) :
    ∃ rest, (Place.opened 328 strikingSource s).Asks (.sql "a;b;" (some 1)) { lines := 1, startLine := 1 }
      rest s := by
  let bytes := (s.world.files.content? strikingSource.path).getD []
  have hline : strikingSource.reader.line? bytes = some ("a;b;\n".toList,
      { strikingSource.reader with passed := 8, ahead := "c;\n".toList }) := by
    subst hs
    decide +kernel
  have hinput : (Place.opened 328 strikingSource s).input = .file (8 + 99999 + 1) strikingSource := by
    have hbytes : bytes.length = 8 := by
      subst hs
      decide +kernel
    show Input.file (bytes.length + _) _ = _
    rw [hbytes]
    rfl
  have hfetch : (Input.file (8 + 99999 + 1) strikingSource).fetch s.world = _ := Input.fetch_file hline
  rw [← hinput] at hfetch
  have hplan : plan false {} "a;b;".toList = .job (.sql "a;b;" (some 1)) { lines := 1, startLine := 1 } := by
    decide +kernel
  subst hs
  exact ⟨_, _, ⟨isReady_of_ready ⟨.inl rfl, rfl⟩, hfetch⟩, hplan⟩

/-- A file that is read at the keyboard is given up in its first statement, and the next line at the keyboard
is asked for. -/
theorem interrupt_ends_inputs_file :
    let s := prompted {} (striking (some .interrupted))
    let p : Place := .start true (inputOfText ".read f\n.print x\n".toList) (striking (some .interrupted))
    let q : Place := .opened 328 strikingSource s
    Visits p [0] q ∧ p.scene.world.statement = none ∧
      ∃ s', q.Struck (some (.sql "a;b;" (some 1), s)) s' ∧ s'.world.statement = none ∧
        GivesUp "a;b;" s s' ∧ ∃ p', p.GivesWay p' (stopped false s') ∧
          p'.IsReady (prompted {} (stopped false s')) := by
  intro s p q
  obtain ⟨rest, hasks⟩ := asks_striking (s := s) rfl
  have hread : p.Asks (.command ".read f".toList) { lines := 1 }
      (.items true [.line ".print x\n".toList]) s :=
    ⟨".read f\n".toList, ⟨isReady_interactive _ _, rfl⟩, rfl⟩
  have hrequests : Requests ".read f".toList s strikingSource s := ⟨"read", ["f"], rfl, rfl, rfl⟩
  have hopens : Opens p q := .mk hread hrequests rfl
  have hvisits : Visits p [0] q := .opened hopens (.here q)
  have hstop : (runWhole "a;b;" (some 1)).IsInterrupted s := by
    refine ⟨s.withScript (striking none).world.script, .mk _ ?_, fun h => ?_⟩
    · exact { Engine.Script.Barring.refl s.world.script with answers := .cons ⟨rfl, .inl rfl⟩ .nil }
    · have hdiffers : (runWhole "a;b;" (some 1) (s.withScript (striking none).world.script)).1 ≠
          (runWhole "a;b;" (some 1) s).1 := by decide +kernel
      exact hdiffers h.1
  have hstruck := Place.Struck.working hasks nofun hstop
  obtain ⟨hidle, -, hgives, -, hends⟩ := interrupt_ends_inputs hvisits rfl hstruck
  -- the settings do not ask to be told what was used
  have hmute : ¬ ∃ j t, some (Job.sql "a;b;" (some 1), s) = some (j, t) ∧ j.Hides t := by
    rintro ⟨_, _, ⟨⟩, h⟩
    cases h with
    | sql hmutes =>
      obtain ⟨db, t, u, hdb, -, f, v, hfails, -⟩ := hmutes
      cases hdb
      cases hfails
  obtain ⟨p', hp⟩ := hends.resolve_left hmute p (.file hopens (.here q) (.here q))
  exact ⟨hvisits, rfl, _, hstruck, hidle, hgives _ _ _ rfl, p', hp, hp.resumes rfl⟩

/-- A console whose engine has this to say of the insertion of a record, and does not undo it. -/
def lingering (fault : Option Engine.Fault) : Scene Console :=
  Import.sampleScene "1|2\n" [{ sql := "INSERT INTO t VALUES(?,?)" },
    { sql := "INSERT INTO t VALUES(?,?)", fault },
    { sql := "ROLLBACK", fault := some (.error ⟨.sql, "no transaction is active", some 1⟩) }]

/-- Where an import that is interrupted cannot be undone, the input does not give way: its next line is
done. -/
theorem lingering_goes_on :
    let s := lingering (some .interrupted)
    let items := inputOfText ".import f t\n.print x\n".toList
    (∃ s', (Place.start false items s).Struck (some (.command ".import f t".toList, s)) s') ∧
      let s' := (readInput false items s).2
      s'.world.executed.map Prod.fst = ["BEGIN", "INSERT INTO t VALUES(?,?)", "ROLLBACK"] ∧
        s'.own.interrupted = false ∧ s'.world.written .stdout = ["x\n"] := by
  intro s items
  have hasks : (Place.start false items s).Asks (.command ".import f t".toList) { lines := 1 }
      (.items false [.line ".print x\n".toList]) s :=
    ⟨".import f t\n".toList, ⟨isReady_of_ready ⟨.inl rfl, rfl⟩, rfl⟩, rfl⟩
  refine ⟨⟨_, .working hasks ?_ ⟨s.withScript (lingering none).world.script, .mk _ ?_, fun h => ?_⟩⟩, ?_⟩
  · rintro ⟨_, ⟨⟩, arguments, hmeans⟩
    have himport : Means ".import f t".toList .import_ ["f", "t"] := ⟨"import", rfl, rfl⟩
    cases (hmeans.unique himport).1
  · exact { Engine.Script.Barring.refl s.world.script with
      answers := .cons (.refl _) (.cons (.refl _) (.cons ⟨rfl, .inl rfl⟩ (.cons (.refl _) .nil))) }
  · have hdiffers : (commandLine (readNested 329) ".import f t".toList
        (s.withScript (lingering none).world.script)).1 ≠
        (commandLine (readNested 329) ".import f t".toList s).1 := by decide +kernel
    exact hdiffers h.1
  · decide +kernel

end SqlConsole.Console

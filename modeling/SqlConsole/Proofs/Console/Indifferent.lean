import SqlConsole.Console.Sql
import SqlConsole.Proofs.Execute.Drained
import SqlConsole.Proofs.Execute.Plain

/-! SQL text is run alike however its results are shown. -/
namespace SqlConsole.Console
open Act (Agrees)
open Execute (report rowsOf run run_concludes run_reads run_shown showRow watchErrors watchRows)
open Layout (Row)
open Scene (Related)
open World (SameBut)

variable {σ : Type} {sql : String} {line? : Option Int} {s s' : Scene Console}

/-- Shows results as other settings do, and stays the same else. -/
def restyle (style : Settings) (c : Console) : Console :=
  let settings := c.session.settings
  { c with
    session := { c.session with
      settings := { settings with
        mode := style.mode
        widths := style.widths
        separator := style.separator
        nullvalue := style.nullvalue
        header := style.header
        table := style.table
        echo := style.echo
        stats := style.stats } } }

/-- The text that tells of an error in SQL text, with the number of a line if one is given. -/
def errorText (line? : Option Int) (e : Engine.Error) : String :=
  let place :=
    match line? with
    | none => "Error: "
    | some n => "Error: near line " ++ String.ofList (Sql.integerText n) ++ ": "
  place ++ e.message ++ "\n"

/-- Runs SQL text on the console's database in a session chosen for it, and tells what it used. The rows that
are read and the errors that are reported are kept. -/
def recordedSql (own : σ) (choose : Session → Session) (each : Session → Row → Act σ Bool)
    (sql : String) (line? : Option Int) : Act Console (Except Failure Nat × Record) := do
  match ← Act.attempt connection with
  | .error (.complaint c) => do
    let text := "Error: " ++ c.message ++ "\n"
    writeError text
    pure (.ok 1, { reported := [text] })
  | .error f => pure (.error f, {})
  | .ok db => do
    let session := (← Act.own).session
    let kept ← Act.within ((own, {}) : σ × Record) do
      let ended ← Act.attempt (run (choose session) db (watchRows (each session))
        (some (watchErrors (errorText line?) (report (errorText line?)))) sql)
      pure (ended, (← Act.own).2)
    match ← Act.attempt (tellUsage (choose session)) with
    | .ok _ => pure kept
    | .error f => pure (.error f, kept.2)

/-- Runs SQL text and shows what it gives, and keeps what was read and reported. -/
def watchedSql : String → Option Int → Act Console (Except Failure Nat × Record) :=
  recordedSql [] id showRow

/-- Runs SQL text without any settings and shows nothing of it. -/
def plainSql : String → Option Int → Act Console (Except Failure Nat × Record) :=
  recordedSql () Session.plain fun _ _ => pure false

/-- The connection has nothing to do with how results are shown. -/
private theorem connection_restyle (style : Settings) :
    Agrees (Related Eq fun c c' => c' = restyle style c) connection connection := by
  have hown {f : Console → Console} (hf : ∀ c, f (restyle style c) = restyle style (f c)) :
      Agrees (Related Eq fun c c' => c' = restyle style c) (Act.modifyOwn f) (Act.modifyOwn f) :=
    fun s t hst => ⟨rfl, hst.world, (congrArg f hst.own).trans (hf s.own)⟩
  have hevent (e : Engine.Event) : Agrees (Related Eq fun c c' => c' = restyle style c)
      (Act.event e : Act Console Unit) (Act.event e) := .same_change _
  refine .own ?_ fun c => ?_
  · intro s t hst
    rw [show t.own = restyle style s.own from hst.own]
    rfl
  · cases c.db with
    | some db => exact .pure db
    | none =>
      refine .bind (hown ?_) fun _ => .bind (hevent _) fun _ => .same_world fun w => ?_
      · exact fun _ => rfl
      · split
        · exact .fail _
        · exact .fail _
        · refine .bind (hown ?_) fun _ => .pure _
          exact fun _ => rfl

/-- What there is once a connection was asked for: in the world the past is another, at most. -/
structure Asked (s s' : Scene Console) : Prop where
  world : ∃ past, s'.world = { s.world with past }
  given : s'.world.given = s.world.given
  session : s'.own.session = s.own.session

theorem connection_asked (s : Scene Console) : Act.Keeps (Asked s) connection := by
  have hown {f : Console → Console} (hf : ∀ c, (f c).session = c.session) :
      Act.Keeps (Asked s) (Act.modifyOwn f) :=
    fun s' h => ⟨h.world, h.given, (hf s'.own).trans h.session⟩
  have hevent (e : Engine.Event) (he : (Deed.engine e).given? = none) :
      Act.Keeps (Asked s) (Act.event e) := by
    intro s' h
    obtain ⟨past, hpast⟩ := h.world
    refine ⟨⟨.engine e :: s'.world.past, ?_⟩, ?_, h.session⟩
    · show { s'.world with past := .engine e :: s'.world.past } = _
      rw [hpast]
    · exact (World.given_note _ _).trans (by simp [he, h.given])
  refine .bind (fun _ h => h) fun c => ?_
  cases c.db with
  | some db => exact .pure db
  | none =>
    refine .bind (hown ?_) fun _ => .bind (hevent _ rfl) fun _ => .bind (fun _ h => h) fun w => ?_
    · exact fun _ => rfl
    · split
      · exact .fail _
      · exact .fail _
      · refine .bind (hown ?_) fun _ => .pure _
        exact fun _ => rfl

/-- What was used is told where the output takes text. -/
private theorem exists_tellUsage {session : Session} (hk : s.world.Accepts session.output) :
    ∃ w, tellUsage session s = (.ok (), ⟨w, s.own⟩) ∧ SameBut session.output w s.world ∧
      w.statement = s.world.statement := by
  unfold tellUsage
  cases session.settings.timer with
  | false => exact ⟨s.world, rfl, .refl _ _, rfl⟩
  | true =>
    let w : World := { s.world with usage := s.world.usage.tail }
    have hk' : w.Accepts session.output := hk
    obtain ⟨w', hwrites, hstays, hpast⟩ :=
      Act.exists_forM_write (s := ⟨w, s.own⟩) hk' String.toList (s.world.usage.headD [])
    exact ⟨w', hwrites, (SameBut.of_texts hstays _ hpast).trans (.of_eq rfl rfl rfl rfl rfl),
      hstays.statement⟩

section Recorded
variable {own : σ} {choose : Session → Session} {each : Session → Row → Act σ Bool} {db : Connection}

private theorem recordedSql_ok (h : connection s = (.ok db, s')) :
    let r := run (choose s'.own.session) db (watchRows (each s'.own.session))
      (some (watchErrors (errorText line?) (report (errorText line?)))) sql ⟨s'.world, (own, {})⟩
    ∀ t, tellUsage (choose s'.own.session) ⟨r.2.world, s'.own⟩ = (.ok (), t) →
      recordedSql own choose each sql line? s = (.ok (r.1, r.2.own.2), t) := by
  intro r t ht
  have hkept : (Act.within ((own, {}) : σ × Record) (do
      let ended ← Act.attempt (run (choose s'.own.session) db (watchRows (each s'.own.session))
        (some (watchErrors (errorText line?) (report (errorText line?)))) sql)
      pure (ended, (← Act.own).2)) : Act Console (Except Failure Nat × Record)) s' =
        (.ok (r.1, r.2.own.2), ⟨r.2.world, s'.own⟩) := rfl
  have htold : Act.attempt (tellUsage (choose s'.own.session)) ⟨r.2.world, s'.own⟩ = (.ok (.ok ()), t) := by
    rw [Act.attempt, ht]
  have hattempt : Act.attempt connection s = (.ok (.ok db), s') := by rw [Act.attempt, h]
  rw [recordedSql, Act.bind_ok hattempt]
  dsimp only
  rw [Act.bind_ok (show Act.own s' = (.ok s'.own, s') from rfl), Act.bind_ok hkept, Act.bind_ok htold]
  rfl

/-- Once there is a connection the text is run on it, and what that used is told. -/
theorem runSql_ok (h : connection s = (.ok db, s')) :
    runSql sql line? s =
      (Act.within ([] : List Int)
        (run s'.own.session db (showRow s'.own.session) (some (report (errorText line?))) sql)).ensuring
        (tellUsage s'.own.session) s' := by
  simp only [runSql, Act.bind_apply, Act.attempt, h]
  rfl

private theorem runSql_told (h : connection s = (.ok db, s')) :
    let r := run s'.own.session db (showRow s'.own.session) (some (report (errorText line?))) sql
      ⟨s'.world, ([] : List Int)⟩
    ∀ t, tellUsage s'.own.session ⟨r.2.world, s'.own⟩ = (.ok (), t) →
      runSql sql line? s = (r.1, t) :=
  fun _ ht => (runSql_ok h).trans (Act.ensuring_ok rfl ht)

end Recorded

/-- Without a connection nothing is run, and nothing is read. -/
private theorem recordedSql_error {f : Failure} (h : connection s = (.error f, s')) :
    ∃ reported past, (runSql sql line? s).2 = ⟨{ s'.world with past }, s'.own⟩ ∧
      ({ s'.world with past } : World).given = s'.world.given ∧
      ∀ {σ : Type} (own : σ) choose each, recordedSql own choose each sql line? s =
        (.ok ((runSql sql line? s).1, { reported }), (runSql sql line? s).2) := by
  simp only [runSql, recordedSql, Act.bind_apply, Act.attempt, h]
  cases f with
  | complaint c =>
    let text := "Error: " ++ c.message ++ "\n"
    have hgiven := World.given_note s'.world (.wrote .stderr (String.ofList text.toList))
    exact ⟨[text], _, rfl, hgiven.trans (List.append_nil _), fun _ _ _ => rfl⟩
  | _ => exact ⟨[], s'.world.past, rfl, rfl, fun _ _ _ => rfl⟩

/-- From one scene to the other the engine was given texts, and these are all rows of its answers.
Where a message about the last text did not get into its sink, none of its rows is among them. -/
def ReadsAll (s s' : Scene Console) (ended : Except Failure Nat) (rows : List Row) : Prop :=
  ∃ texts unread?, s'.world.given = s.world.given ++ texts ++ Option.toList unread? ∧
    rows = rowsOf s.world texts ∧ ((∀ f, ended = .error f → ¬ f.IsOfSink) → unread? = none)

/-- What SQL text comes to: a run of it that is watched has its results and makes this record. All
rows are read that the engine gives, and the session is left as it was. -/
structure Accounts (sql : String) (line? : Option Int) (s : Scene Console) (record : Record) : Prop where
  watched : watchedSql sql line? s = (.ok ((runSql sql line? s).1, record), (runSql sql line? s).2)
  rows : ReadsAll s (runSql sql line? s).2 (runSql sql line? s).1 record.rows
  session : (runSql sql line? s).2.own.session = s.own.session
  statement : s.world.statement = none → (runSql sql line? s).2.world.statement = none

theorem asked_of_connection {r : Except Failure Connection} (h : connection s = (r, s')) :
    Asked s s' :=
  (connection_asked s).apply ⟨⟨s.world.past, rfl⟩, rfl, rfl⟩ h

/-- Without any settings, and shown nowhere, the text goes as it does and leads to the world `w`, which
differs in what is shown. -/
structure Mirrors (sql : String) (line? : Option Int) (s : Scene Console) (record : Record) (w : World) :
    Prop where
  accounts : Accounts sql line? s record
  plain : plainSql sql line? s =
    (.ok ((runSql sql line? s).1, record), ⟨w, (runSql sql line? s).2.own⟩)
  same : SameBut s.own.session.output (runSql sql line? s).2.world w

private theorem mirrors_error {f : Failure} (h : connection s = (.error f, s')) :
    ∃ record w, Mirrors sql line? s record w := by
  obtain ⟨⟨past', hworld⟩, hgiven', hsession⟩ := asked_of_connection h
  obtain ⟨reported, past, hrun, hgiven, hrecorded⟩ := @recordedSql_error sql line? _ _ _ h
  refine ⟨{ reported }, _, ⟨hrecorded [] id showRow, ?_, ?_, ?_⟩, hrecorded () Session.plain _, .refl _ _⟩
  · rw [hrun]
    exact ⟨[], none, by simp [hgiven, hgiven'], rfl, fun _ => rfl⟩
  · rw [hrun]
    exact hsession
  · rw [hrun]
    intro hs
    rwa [hworld]

private theorem mirrors_ok {db : Connection} (h : connection s = (.ok db, s'))
    (hopen : s.world.Accepts s.own.session.output) (hfull : s.world.script.IsFull) :
    ∃ record w, Mirrors sql line? s record w := by
  obtain ⟨⟨past, hworld⟩, hgiven, hsession⟩ := asked_of_connection h
  have hopen' : s'.world.Accepts s'.own.session.output := by
    rw [hsession, hworld]
    exact hopen
  have hfull' : s'.world.script.IsFull := by
    rw [hworld]
    exact hfull
  obtain ⟨hend, hworlds, hend', hrecord, hsame, haccepts⟩ :=
    run_shown s'.own.session db (errorText line?) sql hopen' hfull'
  obtain ⟨texts, unread?, htexts, hrows, hunread⟩ :=
    run_reads s'.own.session db (errorText line?) sql s'.world ()
  obtain ⟨w, htold, hbeside, hstatement⟩ := exists_tellUsage (s := ⟨_, s'.own⟩) haccepts
  have hrun : runSql sql line? s = _ := runSql_told h ⟨w, s'.own⟩ htold
  have hwatched : watchedSql sql line? s = _ :=
    recordedSql_ok h ⟨w, s'.own⟩ (by rw [id, hworlds]; exact htold)
  have hplain : plainSql sql line? s = _ := recordedSql_ok h _ rfl
  obtain ⟨_, _, _, _, -, hcompletes, hconcludes⟩ := run_concludes s'.own.session db
    (showRow s'.own.session) (some (report (errorText line?))) sql ⟨s'.world, ([] : List Int)⟩
  have hidle := fun hs => hconcludes.statement (hcompletes.statement hs)
  rw [id] at hwatched
  generalize run s'.own.session db (showRow s'.own.session) (some (report (errorText line?))) sql
    ⟨s'.world, []⟩ = shown at *
  generalize run s'.own.session.plain db (watchRows fun _ => pure false)
    (some (watchErrors (errorText line?) (report (errorText line?)))) sql
    ⟨s'.world, ((), {})⟩ = plain at *
  refine ⟨plain.2.own.2, plain.2.world, ⟨?_, ?_, ?_, ?_⟩, hplain.trans ?_, ?_⟩
  · rw [hwatched, hrun, hend, hrecord]
  · rw [hrun]
    refine ⟨texts, unread?, ?_, ?_, fun hne => hunread (by rwa [hend'])⟩
    · rw [← hgiven, ← htexts, ← hsame.given]
      exact hbeside.given
    · rw [hrows, rowsOf, rowsOf, hworld]
  · rw [hrun]
    exact hsession
  · intro hs
    rw [hrun]
    refine hstatement.trans (hidle ?_)
    rwa [hworld]
  · rw [hrun]
    simp only [hend']
  · rw [hrun, ← hsession]
    exact hbeside.trans hsame

private theorem exists_mirrors (sql : String) (line? : Option Int)
    (hopen : s.world.Accepts s.own.session.output) (hfull : s.world.script.IsFull) :
    ∃ record w, Mirrors sql line? s record w := by
  rcases h : connection s with ⟨f | db, s'⟩
  · exact mirrors_error h
  · exact mirrors_ok h hopen hfull

private theorem plainSql_restyle (style : Settings) :
    Agrees (Related Eq fun c c' => c' = restyle style c) (plainSql sql line?) (plainSql sql line?) := by
  refine (connection_restyle style).attempt.bind fun ending => ?_
  rcases ending with f | db
  · cases f with
    | complaint c => exact (Agrees.same_write _ _).bind fun _ => .pure _
    | _ => exact .pure _
  · refine .own (fun s t hst => ?_) fun c => ?_
    · rw [show t.own = restyle style s.own from hst.own]
      rfl
    · rintro ⟨w, c⟩ ⟨_, _⟩ ⟨rfl, hown⟩
      exact ⟨rfl, rfl, hown⟩

/-- A console whose engine has this one answer. -/
def answering (a : Engine.Answer) : Scene Console := { world := { script := { answers := [a] } }, own := {} }

/-- Settings with which all of a text is shown, in columns. -/
def showing : Settings := { mode := .column, header := true, echo := true, stats := true }

private theorem parts_sample : Statement.parts "a;".toList = ["a;".toList] :=
  Statement.parts_of_reads (.cons rfl (.cons rfl (.nil [])) :
    Statement.Reads "a;".toList [⟨.other, ['a']⟩, ⟨.semicolon, [';']⟩] [])

end SqlConsole.Console

import SqlConsole.Proofs.Console.Indifferent
import SqlConsole.Proofs.Console.Job
import SqlConsole.Proofs.Dump.Oblivious

/-! Nothing that the console does goes by what was done before: neither SQL text nor dot commands, nor
the lines of a file that is read. -/
namespace SqlConsole.Console
open Act (Agrees Oblivious)
open Execute (agrees_run oblivious_catalog oblivious_columnCount oblivious_gather oblivious_perform
  oblivious_require)
open Scene (Twins)

theorem oblivious_modifySession (f : Session → Session) : Oblivious (modifySession f) := .modifyOwn _

theorem oblivious_modifySettings (f : Settings → Settings) : Oblivious (modifySettings f) :=
  oblivious_modifySession _

theorem oblivious_writeOutput (text : List Char) : Oblivious (writeOutput text) :=
  .bind .own fun _ => .write _ _

theorem oblivious_writeError (text : String) : Oblivious (writeError text) := .write _ _

theorem oblivious_connection : Oblivious connection := by
  refine .bind .own fun c => ?_
  cases c.db with
  | some db => exact .pure db
  | none =>
    refine .bind (.modifyOwn _) fun _ => .bind (.event _) fun _ => .world (fun _ _ => rfl) fun w => ?_
    split
    · exact .fail _
    · exact .fail _
    · exact .bind (.modifyOwn _) fun _ => .pure _

/-! Commands that choose. -/

theorem oblivious_integerArgument (argument : String) : Oblivious (integerArgument argument) := by
  unfold integerArgument
  split
  · exact .pure _
  · exact .fail _

theorem oblivious_booleanArgument (argument : String) : Oblivious (booleanArgument argument) := by
  unfold booleanArgument
  dsimp only
  split
  · split
    · exact .pure _
    · exact .fail _
  · split
    · exact .pure true
    · split
      · exact .pure false
      · exact .bind (oblivious_writeError _) fun _ => .pure false

theorem oblivious_setSwitch (set : Bool → Settings → Settings) (argument : String) :
    Oblivious (setSwitch set argument) :=
  .bind (oblivious_booleanArgument _) fun _ => oblivious_modifySettings _

theorem oblivious_setExplain (argument? : Option String) : Oblivious (setExplain argument?) := by
  cases argument? with
  | none => exact .bind (.pure true) fun _ => oblivious_modifySettings _
  | some a => exact .bind (oblivious_booleanArgument a) fun _ => oblivious_modifySettings _

theorem oblivious_setMode (name : String) (table? : Option String) :
    Oblivious (setMode name table?) := by
  unfold setMode
  split
  · exact .fail _
  · exact .fail _
  · exact oblivious_modifySettings _

theorem oblivious_setWidthsFrom (i : Nat) (arguments : List String) :
    Oblivious (setWidthsFrom i arguments) := by
  induction arguments generalizing i with
  | nil => exact .pure ()
  | cons a rest ih =>
    exact .bind (oblivious_integerArgument a) fun _ =>
      .bind (oblivious_modifySettings _) fun _ => ih (i + 1)

/-! Commands that choose sinks. -/

theorem oblivious_installOutput (k : Sink) : Oblivious (installOutput k) := by
  refine .bind .own fun c => .bind (oblivious_modifySession _) fun _ => ?_
  split
  · exact .close _
  · exact .pure ()

theorem oblivious_setOutput (target : String) : Oblivious (setOutput target) := by
  refine .bind (oblivious_installOutput _) fun _ => ?_
  split
  · exact .pure ()
  · split
    · exact .bind (.openCommand _) fun k => oblivious_installOutput k
    · exact .bind (.openFile _) fun k => oblivious_installOutput k

theorem oblivious_openSink? (name : String) : Oblivious (openSink? name) := by
  unfold openSink?
  split
  · exact .pure _
  · split
    · exact .pure _
    · split
      · exact .pure none
      · exact .bind (.openFile _) fun _ => .pure _

/-- Where the named sink is installed, or none if it cannot be opened. -/
private theorem installing {install : Option Sink → Act Console Unit}
    (hinstall : ∀ k, Oblivious (install k)) (name : String) :
    Oblivious (do
      match ← Act.attempt (openSink? name) with
      | .ok k => install k
      | .error (.complaint c) => do
        install none
        Act.complain c
      | .error f => Act.fail f) := by
  refine .bind (.attempt (oblivious_openSink? _)) fun opened => ?_
  split
  · exact hinstall _
  · exact .bind (hinstall none) fun _ => .fail _
  · exact .fail _

theorem oblivious_setLog (name : String) : Oblivious (setLog name) :=
  installing (fun _ => .bind .own fun _ => .bind (.option_forM Oblivious.close _) fun _ =>
    .bind (oblivious_modifySession _) fun _ => .modifyWorld fun _ _ => rfl) name

theorem oblivious_setTrace (name : String) : Oblivious (setTrace name) :=
  installing (fun _ => .bind .own fun _ => .bind (.option_forM Oblivious.close _) fun _ =>
    .bind (oblivious_modifySession _) fun _ => .bind oblivious_connection fun _ => .modifyOwn _) name

/-! Commands for the engine itself. -/

theorem oblivious_loadExtension (file : String) (start? : Option String) :
    Oblivious (loadExtension file start?) := by
  refine .bind oblivious_connection fun _ => .world (fun _ _ => rfl) fun w => ?_
  dsimp only
  split
  · exact .fail _
  · exact .fail _
  · exact .bind (.event _) fun _ => .raise _

theorem oblivious_setTimeout (argument : String) : Oblivious (setTimeout argument) :=
  .bind oblivious_connection fun _ => .bind (oblivious_integerArgument _) fun _ => .event _

theorem oblivious_testControl (name : String) : Oblivious (testControl name) := by
  unfold testControl
  split
  · exact .pure _
  · dsimp only
    split
    · refine .bind (oblivious_writeError _) fun _ => .bind (oblivious_integerArgument _) fun n => ?_
      split
      · exact .pure _
      · exact .fail _
    · refine .bind (oblivious_integerArgument _) fun n => ?_
      split
      · exact .pure _
      · exact .fail _

theorem oblivious_runTestControl (name : String) (options : Nat) :
    Oblivious (runTestControl name options) :=
  .bind (oblivious_testControl name) fun _ => .fail _

/-! Commands that report. -/

theorem oblivious_showFileSystem (database : String) : Oblivious (showFileSystem database) := by
  refine .bind .own fun c => ?_
  split
  · refine .world (fun _ _ => rfl) fun w => ?_
    split
    · split
      · exact oblivious_writeOutput _
      · exact .pure ()
    · exact .pure ()
  · exact .pure ()

theorem oblivious_showHelp (names : List String) : Oblivious (showHelp names) := by
  unfold showHelp
  split
  · exact oblivious_writeError _
  · exact oblivious_writeError _
  · exact .fail _

/-! Copies of databases. -/

theorem oblivious_copySteps {σ : Type} (answers : List Engine.StepAnswer) (fuel taken retries : Nat) :
    Oblivious (copySteps answers fuel taken retries : Act σ Unit) := by
  induction fuel generalizing taken retries with
  | zero => exact .fail _
  | succ fuel ih =>
    refine .bind (.event _) fun _ => ?_
    split
    · exact .pure ()
    · exact ih _ _
    · exact .fail _
    · split
      · split
        · exact .bind (.event _) fun _ => ih _ _
        · exact .fail _
      · exact .fail _

theorem oblivious_copyDatabase {σ : Type} (target targetDb source sourceDb : String) :
    Oblivious (copyDatabase target targetDb source sourceDb : Act σ Unit) := by
  refine .bind (.event _) fun _ => .world (fun _ _ => rfl) fun w => ?_
  refine .bind (.modifyWorld fun _ _ => rfl) fun _ => ?_
  split
  · exact .fail _
  · exact .ensuring (oblivious_copySteps ..) (.event _)

theorem oblivious_openOther (filename : String) : Oblivious (openOther filename) := by
  refine .bind (.event _) fun _ => .world (fun _ _ => rfl) fun w => ?_
  split
  · exact .fail _
  · exact .fail _
  · exact .pure ()

theorem oblivious_backup (arguments : List String) : Oblivious (backup arguments) := by
  unfold backup
  split
  · exact .fail _
  · exact .fail _
  · exact .bind (oblivious_openOther _) fun _ =>
      .ensuring (.bind oblivious_connection fun _ => oblivious_copyDatabase ..) (.event _)

theorem oblivious_restore (database file : String) : Oblivious (restore database file) :=
  .bind (oblivious_openOther _) fun _ =>
    .ensuring (.bind oblivious_connection fun _ => oblivious_copyDatabase ..) (.event _)

/-! Imports. -/

theorem oblivious_insertRecord (session : Session) (db : Connection) (file sql : String)
    (columns : Nat) (r : Delimited.Record) :
    Oblivious (insertRecord session db file sql columns r) := by
  unfold insertRecord
  dsimp only
  split
  · exact .fail _
  · exact oblivious_perform ..

theorem oblivious_insertRecords {insert : Delimited.Record → Act Console Unit}
    (hinsert : ∀ r, Oblivious (insert r)) (fuel : Nat) (g : Delimited.Gathering) (source : Source) :
    Oblivious (insertRecords insert fuel g source) := by
  induction fuel generalizing g source with
  | zero => exact .fail _
  | succ fuel ih =>
    refine .bind (.readLine source) fun read => ?_
    split
    · split
      · exact .pure ()
      · exact .bind (hinsert _) fun _ => ih _ _
    · exact .bind (.option_forM hinsert _) fun _ => ih _ _

theorem oblivious_insertAll (session : Session) (db : Connection) (file sql : String) (columns : Nat)
    (source : Source) : Oblivious (insertAll session db file sql columns source) := by
  refine .bind (oblivious_perform ..) fun _ => .bind (.attempt ?_) fun ending => ?_
  · exact .bind (.lineLimit source) fun _ =>
      oblivious_insertRecords (fun _ => oblivious_insertRecord ..) ..
  · cases ending with
    | ok _ => exact oblivious_perform ..
    | error f => exact .bind (oblivious_perform ..) fun _ => .fail f

theorem oblivious_importFile (file table : String) : Oblivious (importFile file table) := by
  refine .bind .own fun c => ?_
  split
  · exact .fail _
  · refine .bind oblivious_connection fun db => .bind .own fun c => ?_
    refine .bind (oblivious_columnCount ..) fun columns => ?_
    split
    · refine .bind (oblivious_columnCount ..) fun _ => .bind (.openSource? ..) fun source? => ?_
      cases source? with
      | none => exact .fail _
      | some source => exact oblivious_insertAll ..
    · exact .pure ()

/-! Commands that list what a database holds. -/

theorem oblivious_showQuery (change : Settings → Settings) (sql : String)
    (bindings : List Sql.Value) : Oblivious (showQuery change sql bindings) :=
  .bind oblivious_connection fun _ => .bind .own fun _ => .within (oblivious_catalog
    (fun _ => .bind (Layout.oblivious_writeRow ..) fun _ => .pure false) ..)

theorem oblivious_showIndexes (pattern? : Option String) : Oblivious (showIndexes pattern?) := by
  unfold showIndexes
  cases pattern? with
  | none => exact oblivious_showQuery ..
  | some p => exact oblivious_showQuery ..

theorem oblivious_showSchema (pattern? : Option String) : Oblivious (showSchema pattern?) := by
  cases pattern? with
  | none => exact oblivious_showQuery ..
  | some p =>
    unfold showSchema
    dsimp only
    split
    · exact .bind .own fun _ => .within (Layout.oblivious_writeRow ..)
    · exact oblivious_showQuery ..

theorem oblivious_showTables (pattern? : Option String) : Oblivious (showTables pattern?) := by
  refine .bind oblivious_connection fun db => .bind .own fun c => ?_
  refine .bind (oblivious_gather ..) fun databases => .bind (oblivious_gather ..) fun values => ?_
  exact .bind (oblivious_require _) fun names => .forM (fun _ => .write _ _) _

theorem oblivious_dump (patterns : List String) : Oblivious (dump patterns) :=
  .bind oblivious_connection fun _ => .bind .own fun _ =>
    .within (.discard (Dump.oblivious_script ..))

theorem oblivious_tellUsage (session : Session) : Oblivious (tellUsage session) := by
  unfold tellUsage
  split
  · exact .world (fun _ _ => rfl) fun _ => .bind (.modifyWorld fun _ _ => rfl) fun _ =>
      .forM (fun _ => .write _ _) _
  · exact .pure ()

/-- SQL text is run alike whatever line it starts on, where the pasts stay related after its errors have
been reported. -/
theorem agrees_runSql {T : List Deed → List Deed → Prop} (hT : Lasting T) {line? line?' : Option Int}
    (herror : ∀ e past past', T past past' →
      T (.wrote .stderr (errorText line? e) :: past) (.wrote .stderr (errorText line?' e) :: past'))
    (sql : String) : Agrees (Twins T) (runSql sql line?) (runSql sql line?') := by
  refine (oblivious_connection.attempt.agrees hT).bind fun opened => ?_
  rcases opened with f | db
  · cases f with
    | complaint c => exact ((oblivious_writeError _).agrees hT).bind fun _ => .pure 1
    | _ => exact .fail _
  · refine (Oblivious.own.agrees hT).bind fun c => Agrees.ensuring
      (Agrees.within_twins (agrees_run hT ?_ ?_ _ _ _)) ((oblivious_tellUsage _).agrees hT)
    · intro row
      exact .bind (Layout.oblivious_writeRow ..) fun _ => .pure false
    · intro e s t h
      obtain ⟨past, h⟩ := h
      refine ⟨rfl, .mk _ ?_⟩
      have htext := herror e _ _ h
      rwa [← String.ofList_toList (s := errorText line? e),
        ← String.ofList_toList (s := errorText line?' e)] at htext

theorem oblivious_runSql (sql : String) (line? : Option Int) : Oblivious (runSql sql line?) :=
  ⟨fun hT => agrees_runSql hT (fun _ _ _ h => hT _ _ _ h) sql⟩

/-! Lines of input. -/

theorem oblivious_exit (argument? : Option String) : Oblivious (exit argument?) := by
  cases argument? with
  | none => exact .pure _
  | some a =>
    refine .bind (oblivious_integerArgument a) fun code => ?_
    split
    · exact .pure _
    · exact .fail _

section Fed
variable {feed : Source → Act Console Outcome}

/-- What dot commands are: nearly all of them do something and have no outcome of their own. -/
inductive CommandForm (feed : Source → Act Console Outcome) : Act Console Outcome → Prop where
  | done {x : Act Console Unit} (hx : Oblivious x) : CommandForm feed (do x; pure .success)
  | still (o : Outcome) (ho : o ≠ .error) : CommandForm feed (pure o)
  | exit (argument? : Option String) : CommandForm feed (exit argument?)
  | read (file : String) : CommandForm feed (readFile feed file)

theorem commandForm_runCommand (feed : Source → Act Console Outcome) (command : Command)
    (arguments : List String) : CommandForm feed (runCommand feed command arguments) := by
  cases command with
  | backup => exact .done (oblivious_backup _)
  | bail => exact .done (oblivious_setSwitch ..)
  | breakpoint => exact .still _ nofun
  | databases => exact .done (oblivious_showQuery ..)
  | dump => exact .done (oblivious_dump _)
  | echo => exact .done (oblivious_setSwitch ..)
  | exit => exact .exit _
  | explain => exact .done (oblivious_setExplain _)
  | headers => exact .done (oblivious_setSwitch ..)
  | help => exact .done (oblivious_showHelp _)
  | import_ => exact .done (oblivious_importFile ..)
  | indices => exact .done (oblivious_showIndexes _)
  | load => exact .done (oblivious_loadExtension ..)
  | log => exact .done (oblivious_setLog _)
  | mode => exact .done (oblivious_setMode ..)
  | nullvalue => exact .done (oblivious_modifySettings _)
  | output => exact .done (oblivious_setOutput _)
  | print => exact .done (oblivious_writeOutput _)
  | prompt => exact .done (oblivious_modifySettings _)
  | quit => exact .still _ nofun
  | read => exact .read _
  | restore =>
    unfold runCommand
    dsimp only
    split
    · exact .done (oblivious_restore ..)
    · exact .done (oblivious_restore ..)
  | schema => exact .done (oblivious_showSchema _)
  | separator => exact .done (oblivious_modifySettings _)
  | show_ => exact .done (.bind .own fun _ => .forM (fun _ => .write _ _) _)
  | stats => exact .done (oblivious_setSwitch ..)
  | tables => exact .done (oblivious_showTables _)
  | testctrl => exact .done (oblivious_runTestControl ..)
  | timeout => exact .done (oblivious_setTimeout _)
  | timer => exact .done (oblivious_setSwitch ..)
  | trace => exact .done (oblivious_setTrace _)
  | version => exact .done (.world (fun _ _ => rfl) fun _ => oblivious_writeOutput _)
  | vfsname => exact .done (oblivious_showFileSystem _)
  | width => exact .done (oblivious_setWidthsFrom ..)

theorem CommandForm.oblivious {x : Act Console Outcome} (h : CommandForm feed x)
    (hfeed : ∀ source, Oblivious (feed source)) : Oblivious x := by
  cases h with
  | done hx => exact .bind hx fun _ => .pure _
  | still o => exact .pure o
  | exit argument? => exact oblivious_exit argument?
  | read file =>
    refine .bind (.openSource? ..) fun source? => ?_
    cases source? with
    | none => exact .fail _
    | some source => exact hfeed source

theorem oblivious_dotLine (hfeed : ∀ source, Oblivious (feed source)) (line : List Char) :
    Oblivious (dotLine feed line) := by
  unfold dotLine
  split
  · exact .pure _
  · split
    · exact .bind (oblivious_writeError _) fun _ => .pure _
    · refine .bind (.attempt ((commandForm_runCommand feed _ _).oblivious hfeed)) fun ending => ?_
      split
      · exact .pure _
      · split
        · exact .bind (oblivious_writeError _) fun _ => .pure _
        · exact .fail _

theorem oblivious_commandLine (hfeed : ∀ source, Oblivious (feed source)) (line : List Char) :
    Oblivious (commandLine feed line) := by
  refine .bind .own fun c => ?_
  split
  · exact .bind (.write _ _) fun _ => oblivious_dotLine hfeed line
  · exact .bind (.pure ()) fun _ => oblivious_dotLine hfeed line

theorem oblivious_perform (hfeed : ∀ source, Oblivious (feed source)) (j : Job) :
    Oblivious (j.perform feed) := by
  cases j with
  | command line => exact oblivious_commandLine hfeed line
  | sql text line? => exact .bind (oblivious_runSql ..) fun _ => .pure _

theorem oblivious_takeLine (hfeed : ∀ source, Oblivious (feed source)) (interactive : Bool)
    (r : Reading) (line : List Char) : Oblivious (takeLine feed interactive r line) := by
  rw [takeLine_eq_follow]
  cases plan interactive r line with
  | rest r => exact .pure _
  | job j r => exact .bind (oblivious_perform hfeed j) fun _ => .pure _
  | unjudged => exact .fail _

theorem oblivious_interrupt (interactive : Bool) : Oblivious (interrupt interactive) := by
  have hmark : Oblivious (if interactive then writeError "^C\n" else pure ()) := by
    split
    · exact oblivious_writeError _
    · exact .pure ()
  refine .bind (.modifyOwn _) fun _ => .bind .own fun c => ?_
  cases c.db.isSome with
  | true => exact .bind (.event _) fun _ => hmark
  | false => exact hmark

theorem oblivious_takeWhole (hfeed : ∀ source, Oblivious (feed source)) (interactive : Bool)
    (r : Reading) (text : List Char) : Oblivious (takeWhole feed interactive r text) := by
  refine .bind (.attempt (oblivious_takeLine hfeed ..)) fun ending => ?_
  split
  · exact .pure _
  · exact .bind (oblivious_interrupt _) fun _ => .pure _
  · exact .fail _

theorem oblivious_isReady (interactive : Bool) (r : Reading) : Oblivious (isReady interactive r) := by
  refine .bind .own fun c => ?_
  dsimp only
  split
  · exact .pure false
  · split
    · exact .pure false
    · refine .bind (.modifyOwn _) fun _ => ?_
      split
      · exact .bind (.write _ _) fun _ => .pure true
      · exact .bind (.pure ()) fun _ => .pure true

theorem oblivious_conclude (r : Reading) : Oblivious (conclude r) := by
  unfold conclude
  split
  · exact .pure _
  · exact .bind (oblivious_writeError _) fun _ => .pure _

theorem oblivious_readLines (hfeed : ∀ source, Oblivious (feed source)) (fuel : Nat) (r : Reading)
    (source : Source) : Oblivious (readLines feed fuel r source) := by
  induction fuel generalizing r source with
  | zero =>
    refine .bind (oblivious_isReady ..) fun ready => ?_
    split
    · exact .fail _
    · exact oblivious_conclude r
  | succ fuel ih =>
    refine .bind (oblivious_isReady ..) fun ready => ?_
    split
    · refine .bind (.readLine source) fun read => ?_
      split
      · exact oblivious_conclude r
      · refine .bind (oblivious_takeWhole hfeed ..) fun taken => ?_
        split
        · exact ih _ _
        · exact oblivious_conclude _
    · exact oblivious_conclude r

end Fed

/-- A file is read alike, with all the files that it asks for. -/
theorem oblivious_readNested (depth : Nat) (source : Source) : Oblivious (readNested depth source) := by
  induction depth generalizing source with
  | zero => exact .fail _
  | succ depth ih => exact .bind (.lineLimit source) fun _ => oblivious_readLines ih ..

theorem oblivious_endInput (interactive : Bool) : Oblivious (endInput interactive) := by
  unfold endInput
  split
  · exact .write _ _
  · exact .pure ()

theorem oblivious_takeItem (interactive : Bool) (r : Reading) (item : Item) :
    Oblivious (takeItem readSource interactive r item) := by
  unfold takeItem
  split
  · exact .bind (oblivious_interrupt _) fun _ => .pure _
  · exact .bind (oblivious_endInput _) fun _ => .pure _
  · exact oblivious_takeWhole (oblivious_readNested _) ..

theorem oblivious_readInput (interactive : Bool) (items : List Item) :
    Oblivious (readInput interactive items) := by
  have hall (r : Reading) : Oblivious (readItems readSource interactive r items) := by
    induction items generalizing r with
    | nil =>
      refine .bind (oblivious_isReady ..) fun ready => ?_
      split
      · exact .bind (oblivious_endInput _) fun _ => oblivious_conclude r
      · exact .bind (.pure ()) fun _ => oblivious_conclude r
    | cons item rest ih =>
      refine .bind (oblivious_isReady ..) fun ready => ?_
      split
      · refine .bind (oblivious_takeItem ..) fun taken => ?_
        split
        · exact ih _
        · exact oblivious_conclude _
      · exact oblivious_conclude r
  exact hall {}

end SqlConsole.Console

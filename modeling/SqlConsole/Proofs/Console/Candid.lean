import SqlConsole.Proofs.Console.Dispatched
import SqlConsole.Proofs.Console.Import
import SqlConsole.Proofs.Console.Indifferent
import SqlConsole.Proofs.Console.Visit
import SqlConsole.Proofs.Dump.Candid

/-! What the console does keeps no interrupt of the engine to itself, neither SQL text nor dot commands. Only
where an import cannot be undone, or a dump not be ended, does another failure stand in its place. -/
namespace SqlConsole.Console
open Act (Candid CandidTo CandidUnless)
open Execute (candid_catalog candid_columnCount candid_gather candid_perform candid_require candid_run)

variable {I : Option String → Prop}

theorem candid_modifySession (f : Session → Session) : Candid I (modifySession f) := .modifyOwn _

theorem candid_modifySettings (f : Settings → Settings) : Candid I (modifySettings f) :=
  candid_modifySession _

theorem candid_writeOutput (text : List Char) : Candid I (writeOutput text) :=
  .bind .own fun _ => .write _ _

theorem candid_writeError (text : String) : Candid I (writeError text) := .write _ _

theorem candid_connection : Candid I connection := by
  refine .bind .own fun c => ?_
  cases c.db with
  | some db => exact .pure db
  | none =>
    refine .bind (.modifyOwn _) fun _ => .bind (.event _) fun _ => .scripted fun w script h => ?_
    dsimp only
    rcases h.openFault (if (c.filename.getD "").isEmpty then memoryName else c.filename.getD "") with
      hfault | hfault <;> rw [hfault]
    · exact .interrupted _
    · split
      · exact .fail _
      · exact .fail _
      · exact .bind (.modifyOwn _) fun _ => .pure _

/-! Commands that choose. -/

theorem candid_integerArgument (argument : String) : Candid I (integerArgument argument) := by
  unfold integerArgument
  split
  · exact .pure _
  · exact .fail _

theorem candid_booleanArgument (argument : String) : Candid I (booleanArgument argument) := by
  unfold booleanArgument
  dsimp only
  split
  · split
    · exact .pure _
    · exact .fail _
  · split
    · exact .pure true
    · split
      · exact .pure false
      · exact .bind (candid_writeError _) fun _ => .pure false

theorem candid_setSwitch (set : Bool → Settings → Settings) (argument : String) :
    Candid I (setSwitch set argument) :=
  .bind (candid_booleanArgument _) fun _ => candid_modifySettings _

theorem candid_setExplain (argument? : Option String) : Candid I (setExplain argument?) := by
  cases argument? with
  | none => exact .bind (.pure true) fun _ => candid_modifySettings _
  | some a => exact .bind (candid_booleanArgument a) fun _ => candid_modifySettings _

theorem candid_setMode (name : String) (table? : Option String) :
    Candid I (setMode name table?) := by
  unfold setMode
  split
  · exact .fail _
  · exact .fail _
  · exact candid_modifySettings _

theorem candid_setWidthsFrom (i : Nat) (arguments : List String) :
    Candid I (setWidthsFrom i arguments) := by
  induction arguments generalizing i with
  | nil => exact .pure ()
  | cons a rest ih =>
    exact .bind (candid_integerArgument a) fun _ =>
      .bind (candid_modifySettings _) fun _ => ih (i + 1)

/-! Commands that choose sinks. -/

theorem candid_installOutput (k : Sink) : Candid I (installOutput k) := by
  refine .bind .own fun c => .bind (candid_modifySession _) fun _ => ?_
  split
  · exact .close _
  · exact .pure ()

theorem candid_setOutput (target : String) : Candid I (setOutput target) := by
  refine .bind (candid_installOutput _) fun _ => ?_
  split
  · exact .pure ()
  · split
    · exact .bind (.openCommand _) fun k => candid_installOutput k
    · exact .bind (.openFile _) fun k => candid_installOutput k

theorem candid_openSink? (name : String) : Candid I (openSink? name) := by
  unfold openSink?
  split
  · exact .pure _
  · split
    · exact .pure _
    · split
      · exact .pure none
      · exact .bind (.openFile _) fun _ => .pure _

/-- Where the named sink is installed, or none if it cannot be opened. -/
private theorem candid_installing {install : Option Sink → Act Console Unit}
    (hinstall : ∀ k, Candid I (install k)) (name : String) :
    Candid I (do
      match ← Act.attempt (openSink? name) with
      | .ok k => install k
      | .error (.complaint c) => do
        install none
        Act.complain c
      | .error f => Act.fail f) := by
  refine .attempt (candid_openSink? _) (fun opened => ?_) fun s => rfl
  split
  · exact hinstall _
  · exact .bind (hinstall none) fun _ => .fail _
  · exact .fail _

theorem candid_setLog (name : String) : Candid I (setLog name) := by
  refine candid_installing (fun _ => .bind .own
    fun _ => .bind (.option_forM CandidTo.close _) fun _ => ?_) name
  exact .bind (candid_modifySession _) fun _ => .change (fun _ _ => rfl) fun _ => rfl

theorem candid_setTrace (name : String) : Candid I (setTrace name) :=
  candid_installing (fun _ => .bind .own fun _ => .bind (.option_forM CandidTo.close _) fun _ =>
    .bind (candid_modifySession _) fun _ => .bind candid_connection fun _ => .modifyOwn _) name

/-! Commands for the engine itself. -/

theorem candid_loadExtension (file : String) (start? : Option String) :
    Candid I (loadExtension file start?) := by
  refine .bind candid_connection fun _ => .scripted fun w script h => ?_
  dsimp only
  rcases h.enableLoadFault with hfault | hfault <;> rw [hfault]
  · exact .interrupted _
  · split
    · exact .fail _
    · exact .fail _
    · exact .bind (.event _) fun _ => .raise h.loadFault

theorem candid_setTimeout (argument : String) : Candid I (setTimeout argument) :=
  .bind candid_connection fun _ => .bind (candid_integerArgument _) fun _ => .event _

theorem candid_testControl (name : String) : Candid I (testControl name) := by
  unfold testControl
  split
  · exact .pure _
  · dsimp only
    split
    · refine .bind (candid_writeError _) fun _ => .bind (candid_integerArgument _) fun n => ?_
      split
      · exact .pure _
      · exact .fail _
    · refine .bind (candid_integerArgument _) fun n => ?_
      split
      · exact .pure _
      · exact .fail _

theorem candid_runTestControl (name : String) (options : Nat) :
    Candid I (runTestControl name options) :=
  .bind (candid_testControl name) fun _ => .fail _

/-! Commands that report. -/

theorem candid_showFileSystem (database : String) : Candid I (showFileSystem database) := by
  refine .bind .own fun c => ?_
  split
  · refine .scripted fun w script h => ?_
    rw [show script.fileSystem? database = w.script.fileSystem? database from
      congrArg (List.lookup database) h.fileSystems]
    split
    · split
      · exact candid_writeOutput _
      · exact .pure ()
    · exact .pure ()
  · exact .pure ()

theorem candid_showVersion : Candid I showVersion := by
  refine .scripted fun w script h => ?_
  rw [show script.versionText = w.script.versionText by
    rw [Engine.Script.versionText, h.version, h.sourceId, Engine.Script.versionText]]
  exact candid_writeOutput _

theorem candid_showHelp (names : List String) : Candid I (showHelp names) := by
  unfold showHelp
  split
  · exact candid_writeError _
  · exact candid_writeError _
  · exact .fail _

/-! Copies of databases. -/

theorem candid_copySteps {σ : Type} {l l' : List Engine.StepAnswer}
    (h : List.Forall₂ Engine.StepAnswer.Barring l l') (fuel taken retries : Nat) :
    CandidTo I (copySteps l fuel taken retries : Act σ Unit) (copySteps l' fuel taken retries) := by
  induction fuel generalizing taken retries with
  | zero => exact .fail _
  | succ fuel ih =>
    have hanswer := Engine.StepAnswer.Barring.getD h taken
    unfold copySteps
    refine .bind (.event _) fun _ => ?_
    generalize (l[taken]?.or l.getLast?).getD .done = answer at hanswer ⊢
    generalize (l'[taken]?.or l'.getLast?).getD .done = answer' at hanswer ⊢
    cases hanswer with
    | interrupted => exact .interrupted _
    | same =>
      split
      · exact .pure ()
      · exact ih _ _
      · exact .fail _
      · split
        · split
          · exact .bind (.event _) fun _ => ih _ _
          · exact .fail _
        · exact .fail _

theorem candid_copyDatabase {σ : Type} (target targetDb source sourceDb : String) :
    Candid I (copyDatabase target targetDb source sourceDb : Act σ Unit) := by
  refine .bind (.event _) fun _ => .scripted fun w script h => ?_
  obtain ⟨hanswer, hscript⟩ := h.backup
  dsimp only
  refine .bind (.modifyWorld (fun _ h => h) fun _ _ _ => ⟨rfl, hscript⟩) fun _ => ?_
  generalize w.script.backup.1 = answer at hanswer ⊢
  generalize script.backup.1 = answer' at hanswer ⊢
  cases hanswer with
  | refused f => exact .fail _
  | interrupted => exact .interrupted _
  | steps hl =>
    dsimp only
    rw [← hl.length_eq]
    exact .ensuring (candid_copySteps hl ..) (.event _) fun _ => rfl

theorem candid_openOther (filename : String) : Candid I (openOther filename) := by
  refine .bind (.event _) fun _ => .scripted fun w script h => ?_
  rcases h.openFault filename with hfault | hfault <;> rw [hfault]
  · exact .interrupted _
  · split
    · exact .fail _
    · exact .fail _
    · exact .pure ()

theorem candid_backup (arguments : List String) : Candid I (backup arguments) := by
  unfold backup
  split
  · exact .fail _
  · exact .fail _
  · exact .bind (candid_openOther _) fun _ =>
      .ensuring (.bind candid_connection fun _ => candid_copyDatabase ..) (.event _)
        fun _ => rfl

theorem candid_restore (database file : String) : Candid I (restore database file) :=
  .bind (candid_openOther _) fun _ =>
    .ensuring (.bind candid_connection fun _ => candid_copyDatabase ..) (.event _)
        fun _ => rfl

/-! Imports. -/

theorem candid_insertRecord (session : Session) (db : Connection) (file sql : String)
    (columns : Nat) (r : Delimited.Record) :
    Candid I (insertRecord session db file sql columns r) := by
  unfold insertRecord
  dsimp only
  split
  · exact .fail _
  · exact candid_perform ..

theorem candid_insertRecords {insert : Delimited.Record → Act Console Unit}
    (hinsert : ∀ r, Candid I (insert r)) (fuel : Nat) (g : Delimited.Gathering) (source : Source) :
    Candid I (insertRecords insert fuel g source) := by
  induction fuel generalizing g source with
  | zero => exact .fail _
  | succ fuel ih =>
    refine .bind (.readLine source) fun read => ?_
    split
    · split
      · exact .pure ()
      · exact .bind (hinsert _) fun _ => ih _ _
    · exact .bind (.option_forM hinsert _) fun _ => ih _ _

namespace Import
variable (i : Import)

theorem candid_records : Candid I i.records :=
  .bind (.lineLimit _) fun _ => candid_insertRecords (fun _ => candid_insertRecord ..) ..

theorem candid_conclude (ending : Except Failure Unit) : Candid I (i.conclude ending) := by
  cases ending with
  | ok _ => exact candid_perform ..
  | error e => exact .bind (candid_perform ..) fun _ => .fail e

/-- An insertion is interrupted, which leads from one scene to the other: all was prepared for the import,
and its transaction had begun. -/
def Breaks (s s' : Scene Console) : Prop :=
  s.own.session.settings.separator.isEmpty = false ∧ ∃ s₁ s₂, i.Prepares s s₁ ∧
    Execute.perform i.session i.db "BEGIN" [] s₁ = (.ok (), s₂) ∧ i.records s₂ = (.error .interrupted, s')

/-- The undoing of the transaction, by itself. -/
def rollback : Act Console Unit := Execute.perform i.session i.db "ROLLBACK" []

theorem undo_ne_interrupted {s : Scene Console} (h : (i.undo .interrupted s).1 ≠ .error .interrupted) :
    i.rollback.Fails s := by
  rcases hs : i.rollback s with ⟨f | _, s'⟩
  · refine ⟨f, s', hs, ?_⟩
    rintro rfl
    exact h (congrArg Prod.fst (Act.bind_error hs _))
  · exact absurd (congrArg Prod.fst (Act.bind_ok hs _)) h

theorem candid_insertAll : CandidUnless I (fun s => ∃ s₂ s₃,
      Execute.perform i.session i.db "BEGIN" [] s = (.ok (), s₂) ∧
      i.records s₂ = (.error .interrupted, s₃) ∧ i.rollback.Fails s₃)
    (insertAll i.session i.db i.file i.insertion i.columns i.source) := by
  rw [insertAll_eq_conclude]
  refine .after (candid_perform ..) fun _ => .mono (.handling i.candid_records i.candid_conclude) ?_
  rintro s₂ ⟨s₃, hrecords, hends⟩ s hbegin
  exact ⟨s₂, s₃, hbegin, hrecords, i.undo_ne_interrupted hends⟩

end Import

/-- An insertion of the import is interrupted, and then its transaction cannot be undone. -/
def Lingers (file table : String) (s : Scene Console) : Prop :=
  ∃ (i : Import) (s' : Scene Console), i.file = file ∧ i.table = table ∧ i.Breaks s s' ∧ i.rollback.Fails s'

theorem candid_importFile (file table : String) :
    CandidUnless I (Lingers file table) (importFile file table) := by
  refine .after .own fun c => ?_
  split
  · exact .never (.fail _)
  · rename_i hsep
    refine .after candid_connection fun db => .after .own fun c' => ?_
    refine .after (candid_columnCount ..) fun columns => ?_
    split
    · rename_i hcolumns
      refine .after (candid_columnCount ..) fun n => .after (.openSource? ..) fun source? => ?_
      cases source? with
      | none => exact .never (.fail _)
      | some source =>
        refine .mono (Import.candid_insertAll ⟨c'.session, db, file, table, columns, source⟩) ?_
        rintro s₅ ⟨s₆, s₇, hbegin, hrecords, hfails⟩ s₄ hsource s₃ hinsert s₂ hselect s₁ hown s hdb s₀ hown₀
        cases hown
        cases hown₀
        refine ⟨⟨_, db, file, table, columns, source⟩, s₇, rfl, rfl,
          ⟨?_, s₅, s₆, ?_, hbegin, hrecords⟩, hfails⟩
        · exact Bool.eq_false_iff.2 hsep
        · exact ⟨_, _, _, n, hdb, rfl, hselect, hcolumns, hinsert, hsource⟩
    · exact .never (.pure ())

/-! Commands that list what a database holds. -/

theorem candid_showQuery (change : Settings → Settings) (sql : String)
    (bindings : List Sql.Value) : Candid I (showQuery change sql bindings) :=
  .bind candid_connection fun _ => .bind .own fun _ => .within (candid_catalog
    (fun _ => .bind (Layout.candid_writeRow ..) fun _ => .pure false) ..)

theorem candid_showIndexes (pattern? : Option String) : Candid I (showIndexes pattern?) := by
  unfold showIndexes
  cases pattern? with
  | none => exact candid_showQuery ..
  | some p => exact candid_showQuery ..

theorem candid_showSchema (pattern? : Option String) : Candid I (showSchema pattern?) := by
  cases pattern? with
  | none => exact candid_showQuery ..
  | some p =>
    unfold showSchema
    dsimp only
    split
    · exact .bind .own fun _ => .within (Layout.candid_writeRow ..)
    · exact candid_showQuery ..

theorem candid_showTables (pattern? : Option String) : Candid I (showTables pattern?) := by
  refine .bind candid_connection fun db => .bind .own fun c => ?_
  refine .bind (candid_gather ..) fun databases => .bind (candid_gather ..) fun values => ?_
  exact .bind (candid_require _) fun names => .forM (fun _ => .write _ _) _

/-- The dump is interrupted in its body, and then its savepoint cannot be released. -/
def Gapes (patterns : List String) (s : Scene Console) : Prop :=
  ∃ db s', connection s = (.ok db, s') ∧ Dump.Gapes s'.own.session db patterns ⟨s'.world, {}⟩

theorem candid_dump (patterns : List String) : CandidUnless I (Gapes patterns) (dump patterns) := by
  refine .after candid_connection fun db => .after .own fun c => ?_
  refine .mono (.within (.before (Dump.candid_script c.session db patterns) fun _ => .pure ())) ?_
  rintro s₁ hgapes s₀ hown s hdb
  cases hown
  exact ⟨db, _, hdb, hgapes⟩

/-! SQL and lines. -/

theorem candid_tellUsage (session : Session) : Candid I (tellUsage session) := by
  unfold tellUsage
  split
  · exact .world (fun _ _ => rfl) fun _ => .bind (.change (fun _ _ => rfl) fun _ => rfl) fun _ =>
      .forM (fun _ => .write _ _) _
  · exact .pure ()

/-- The text is interrupted, and then it cannot be told what was used. -/
def Mutes (sql : String) (line? : Option Int) (s : Scene Console) : Prop :=
  ∃ db s₁ s₂, connection s = (.ok db, s₁) ∧
    Act.within ([] : List Int) (Execute.run s₁.own.session db (Execute.showRow s₁.own.session)
      (some (Execute.report (errorText line?))) sql) s₁ = (.error .interrupted, s₂) ∧
    (tellUsage s₁.own.session).Fails s₂

theorem candid_runSql (sql : String) (line? : Option Int) :
    CandidUnless (· = none) (Mutes sql line?) (runSql sql line?) := by
  refine .afterAttempt candid_connection (fun opened => ?_) fun s => rfl
  rcases opened with f | db
  · cases f with
    | complaint c => exact .never (.bind (candid_writeError _) fun _ => .pure 1)
    | _ => exact .never (.fail _)
  · refine .after .own fun c => (CandidUnless.ensuring (.within (candid_run (fun row => ?_)
      (fun e => .write _ _) c.session db sql)) (candid_tellUsage _)).mono ?_
    · exact .bind (Layout.candid_writeRow ..) fun _ => .pure false
    · rintro s₁ ⟨s₂, hrun, hfails⟩ s₀ hown s hdb
      cases hown
      exact ⟨db, _, s₂, hdb, hrun, hfails⟩

theorem candid_runWhole (sql : String) (line? : Option Int) :
    CandidUnless (· = none) (Mutes sql line?) (runWhole sql line?) :=
  .before (candid_runSql sql line?) fun _ => .pure _

theorem candid_exit (argument? : Option String) : Candid I (exit argument?) := by
  cases argument? with
  | none => exact .pure _
  | some a =>
    refine .bind (candid_integerArgument a) fun code => ?_
    split
    · exact .pure _
    · exact .fail _

/-- The command keeps an interrupt to itself: what is to be done about it fails. -/
inductive Hides : Command → List String → Scene Console → Prop where
  | import_ {arguments : List String} {s : Scene Console}
      (h : Lingers (arguments.headD "") (arguments[1]?.getD "") s) : Hides .import_ arguments s
  | dump {patterns : List String} {s : Scene Console} (h : Gapes patterns s) : Hides .dump patterns s

theorem candid_runCommand (feed : Source → Act Console Outcome) {command : Command} (h : command ≠ .read)
    (arguments : List String) :
    CandidUnless I (Hides command arguments) (runCommand feed command arguments) := by
  have hdone {x : Act Console Unit} (hx : Candid I x) :
      CandidUnless I (Hides command arguments) (do x; pure Outcome.success) :=
    .never (.bind hx fun _ => .pure _)
  cases command with
  | read => exact absurd rfl h
  | import_ => exact .before (.mono (candid_importFile ..) fun _ => .import_) fun _ => .pure _
  | dump => exact .before (.mono (candid_dump _) fun _ => .dump) fun _ => .pure _
  | backup => exact hdone (candid_backup _)
  | bail => exact hdone (candid_setSwitch ..)
  | breakpoint => exact .never (.pure _)
  | databases => exact hdone (candid_showQuery ..)
  | echo => exact hdone (candid_setSwitch ..)
  | exit => exact .never (candid_exit _)
  | explain => exact hdone (candid_setExplain _)
  | headers => exact hdone (candid_setSwitch ..)
  | help => exact hdone (candid_showHelp _)
  | indices => exact hdone (candid_showIndexes _)
  | load => exact hdone (candid_loadExtension ..)
  | log => exact hdone (candid_setLog _)
  | mode => exact hdone (candid_setMode ..)
  | nullvalue => exact hdone (candid_modifySettings _)
  | output => exact hdone (candid_setOutput _)
  | print => exact hdone (candid_writeOutput _)
  | prompt => exact hdone (candid_modifySettings _)
  | quit => exact .never (.pure _)
  | restore =>
    unfold runCommand
    dsimp only
    split
    · exact hdone (candid_restore ..)
    · exact hdone (candid_restore ..)
  | schema => exact hdone (candid_showSchema _)
  | separator => exact hdone (candid_modifySettings _)
  | show_ => exact hdone (.bind .own fun _ => .forM (fun _ => .write _ _) _)
  | stats => exact hdone (candid_setSwitch ..)
  | tables => exact hdone (candid_showTables _)
  | testctrl => exact hdone (candid_runTestControl ..)
  | timeout => exact hdone (candid_setTimeout _)
  | timer => exact hdone (candid_setSwitch ..)
  | trace => exact hdone (candid_setTrace _)
  | version => exact hdone candid_showVersion
  | vfsname => exact hdone (candid_showFileSystem _)
  | width => exact hdone (candid_setWidthsFrom ..)

/-- The command that the line means keeps an interrupt to itself. -/
def LineHides (line : List Char) (s : Scene Console) : Prop :=
  ∃ command arguments, Means line command arguments ∧ Hides command arguments s

theorem candid_dotLine (feed : Source → Act Console Outcome) {line : List Char} (hline : ¬ IsReading line) :
    CandidUnless I (LineHides line) (dotLine feed line) := by
  by_cases hmeans : ∃ command arguments, Means line command arguments
  · obtain ⟨command, arguments, hmeans⟩ := hmeans
    rw [dotLine_of_means hmeans]
    have hcommand := candid_runCommand (I := I) feed (hmeans.ne_read hline) arguments
    refine .attempt (hcommand.mono fun _ h => ⟨command, arguments, hmeans, h⟩) (fun ending => ?_) fun s => rfl
    split
    · exact .pure _
    · split
      · exact .bind (candid_writeError _) fun _ => .pure _
      · exact .fail _
  · rcases dotLine_of_not_means feed fun command arguments h => hmeans ⟨command, arguments, h⟩ with
      heq | ⟨text, heq⟩ <;> rw [heq]
    · exact .never (.pure _)
    · exact .never (.bind (candid_writeError _) fun _ => .pure _)

theorem candid_commandLine (feed : Source → Act Console Outcome) {line : List Char}
    (hline : ¬ IsReading line) :
    CandidUnless I (fun s => LineHides line (echoed line s)) (commandLine feed line) := by
  refine .after .own fun c => ?_
  split
  · rename_i hecho
    refine .after (.write _ _) fun _ => (candid_dotLine feed hline).mono ?_
    rintro s₂ hhides s₁ hwrite s hown
    cases hown
    cases hwrite
    rwa [echoed, if_pos hecho]
  · rename_i hecho
    refine .after (.pure ()) fun _ => (candid_dotLine feed hline).mono ?_
    rintro s₂ hhides s₁ hpure s hown
    cases hown
    cases hpure
    rwa [echoed, if_neg hecho]

end SqlConsole.Console

import SqlConsole.Proofs.Console.Dispatched
import SqlConsole.Proofs.Dump.Steady

/-! What the console does, done twice: in worlds that differ in their pasts at most, and over connections of
which one may be traced and the other one not. -/
namespace SqlConsole.Console
open Act (Agrees Respects)
open Execute (Paired)
open Scene (Related)
open World (Steady)

variable {K : Option Nat → Prop} {W : World → World → Prop} {S : Console → Prop}
  {D : Option Connection → Option Connection → Prop} {c c' : Console} {α : Type}

/-- The consoles differ in their connections at most, which `D` relates. `S` says something of the rest. -/
inductive Sides (S : Console → Prop) (D : Option Connection → Option Connection → Prop) (c : Console) :
    Console → Prop where
  | mk (db? : Option Connection) (rest : S c) (db : D c.db db?) : Sides S D c { c with db := db? }

namespace Sides

theorem rest_left (h : Sides S D c c') : S c := by
  obtain ⟨-, hrest, -⟩ := h
  exact hrest

theorem linked (h : Sides S D c c') : D c.db c'.db := by
  obtain ⟨db?, -, hdb⟩ := h
  exact hdb

theorem change (h : Sides S D c c') {f : Console → Console} (hrest : S (f c))
    (hdb : (f c).db = c.db) (hsame : ∀ db?, f { c with db := db? } = { f c with db := db? }) :
    Sides S D (f c) (f c') := by
  obtain ⟨db?, _, hlink⟩ := h
  rw [hsame db?]
  exact ⟨db?, hrest, hdb ▸ hlink⟩

end Sides

/-- `S` and `D` allow text to be written alike on both sides, whatever the settings are. -/
structure Accord (K : Option Nat → Prop) (W : World → World → Prop) (S : Console → Prop)
    (D : Option Connection → Option Connection → Prop) : Prop where
  steady : Steady K W
  streams : K none
  settings {c : Console} (h : S c) (t : Settings) : S { c with session := { c.session with settings := t } }
  opened {c : Console} (h : S c) (filename : Option String) (db? : Option Connection) :
    S { c with filename, db := db? }
  output {c : Console} (h : S c) : K c.session.output.id?
  log {c : Console} (h : S c) : ∀ k ∈ c.session.log, K k.id?
  unopened {db? : Option Connection} (h : D none db?) :
    db? = none ∧ ∀ filename, D (some { filename }) (some { filename })
  linked {db : Connection} {db? : Option Connection} (h : D (some db) db?) :
    ∃ db', db? = some db' ∧ db'.filename = db.filename ∧
      ∀ c, S c → Paired K W c.session db db'

namespace Accord
variable (hA : Accord K W S D)
include hA

theorem writeError (text : String) : Respects (Related W (Sides S D)) (writeError text) :=
  hA.steady.write (k := .stderr) hA.streams _

theorem writeOutput (text : List Char) : Respects (Related W (Sides S D)) (writeOutput text) := by
  refine .own_of fun c c' h => ?_
  obtain ⟨db?, hrest, -⟩ := h
  exact hA.steady.write (hA.output hrest) _

theorem modifySettings (f : Settings → Settings) :
    Respects (Related W (Sides S D)) (modifySettings f) :=
  .modifyOwn fun _ _ h => h.change
    (f := fun c => { c with session := { c.session with settings := f c.session.settings } })
    (hA.settings h.rest_left _) rfl fun _ => rfl

/-! The connection. -/

/-- Where the one side gets a connection the other one gets one that belongs to it, and where the one gets
none neither does the other. -/
theorem connection_ends {s t : Scene Console} (h : Related W (Sides S D) s t) :
    Related W (Sides S D) (connection s).2 (connection t).2 ∧
      ((∃ db db', (connection s).1 = .ok db ∧ (connection t).1 = .ok db' ∧ D (some db) (some db')) ∨
        ∃ f, (connection s).1 = .error f ∧ (connection t).1 = .error f) := by
  obtain ⟨w, c⟩ := s
  obtain ⟨w', c'⟩ := t
  obtain ⟨hworld, hsides⟩ := h
  obtain ⟨db?, hrest, hdb⟩ := hsides
  cases hlink : c.db with
  | some db =>
    rw [hlink] at hdb
    obtain ⟨db', rfl, -⟩ := hA.linked hdb
    have hleft : connection ⟨w, c⟩ = (.ok db, ⟨w, c⟩) := by
      unfold connection
      rw [Act.bind_ok (show Act.own _ = (.ok c, _) from rfl), hlink]
      rfl
    rw [hleft]
    exact ⟨⟨hworld, some db', hrest, hlink ▸ hdb⟩, .inl ⟨db, db', rfl, rfl, hdb⟩⟩
  | none =>
    rw [hlink] at hdb
    obtain ⟨rfl, hfresh⟩ := hA.unopened hdb
    have hsame : ({ c with db := none } : Console) = c := by rw [← hlink]
    dsimp only at hworld ⊢
    rw [hsame, connection_apply hlink, connection_apply hlink, hA.steady.same hworld]
    have hnoted := hA.steady.noted hworld (d := .engine (.openMain (mainFile c) c.fileSystem)) trivial
    rw [hA.steady.same hworld] at hnoted
    have hclosed (filename : Option String) :
        Sides S D { c with filename } { c with filename } := by
      rw [show ({ c with filename } : Console) = { { c with filename } with db := none } by rw [← hlink]]
      exact ⟨none, hA.opened hrest _ _, hdb⟩
    dsimp only
    cases w.script.openFault? (mainFile c) with
    | none => exact ⟨⟨hnoted, _, hA.opened hrest _ _, hfresh _⟩, .inl ⟨_, _, rfl, rfl, hfresh _⟩⟩
    | some f => cases f <;> exact ⟨⟨hnoted, hclosed _⟩, .inr ⟨_, rfl, rfl⟩⟩

/-- What goes on may rely on how the connections belong together. -/
theorem attempted {F G : Except Failure Connection → Act Console α}
    (hok : ∀ db db', D (some db) (some db') → Agrees (Related W (Sides S D)) (F (.ok db)) (G (.ok db')))
    (herror : ∀ f, Agrees (Related W (Sides S D)) (F (.error f)) (G (.error f))) :
    Agrees (Related W (Sides S D)) (Act.attempt connection >>= F) (Act.attempt connection >>= G) := by
  intro s t h
  obtain ⟨hrelated, hends⟩ := hA.connection_ends h
  show (F (connection s).1 _).1 = (G (connection t).1 _).1 ∧
    Related W (Sides S D) (F (connection s).1 _).2 (G (connection t).1 _).2
  rcases hends with ⟨db, db', hs, ht, hdb⟩ | ⟨f, hs, ht⟩ <;> rw [hs, ht]
  · exact hok db db' hdb _ _ hrelated
  · exact herror f _ _ hrelated

theorem connected {f g : Connection → Act Console α}
    (hfg : ∀ db db', D (some db) (some db') → Agrees (Related W (Sides S D)) (f db) (g db')) :
    Agrees (Related W (Sides S D)) (connection >>= f) (connection >>= g) := by
  have hopen {f : Connection → Act Console α} : connection >>= f = Act.attempt connection >>= fun
      | .ok db => f db
      | .error e => Act.fail e := by
    funext s
    rw [Act.bind_apply, Act.bind_apply, Act.attempt]
    rcases connection s with ⟨_ | _, _⟩ <;> rfl
  rw [hopen, hopen]
  exact hA.attempted hfg fun _ => .fail _

theorem filename {db db' : Connection} (h : D (some db) (some db')) : db'.filename = db.filename := by
  obtain ⟨_, heq, hfilename, -⟩ := hA.linked h
  cases heq
  exact hfilename

theorem paired {db db' : Connection} (h : D (some db) (some db')) (hrest : S c) :
    Paired K W c.session db db' := by
  obtain ⟨_, heq, -, hpaired⟩ := hA.linked h
  cases heq
  exact hpaired c hrest

/-- What goes on runs texts over the connections, for the session as it is. -/
theorem prepared {f g : Connection → Console → Act Console α}
    (hfg : ∀ db db' c db?, S c → Paired K W c.session db db' →
      Agrees (Related W (Sides S D)) (f db c) (g db' { c with db := db? })) :
    Agrees (Related W (Sides S D)) (connection >>= fun db => Act.own >>= f db)
      (connection >>= fun db => Act.own >>= g db) := by
  refine hA.connected fun db db' hdb => .own_of fun c _ h => ?_
  obtain ⟨db?, hrest, -⟩ := h
  exact hfg db db' c db? hrest (hA.paired hdb hrest)

/-! Commands that choose settings. -/

omit hA in
theorem integerArgument (argument : String) :
    Respects (Related W (Sides S D)) (integerArgument argument) := by
  unfold Console.integerArgument
  split
  · exact .pure _
  · exact .fail _

theorem booleanArgument (argument : String) :
    Respects (Related W (Sides S D)) (booleanArgument argument) := by
  unfold Console.booleanArgument
  dsimp only
  split
  · split
    · exact .pure _
    · exact .fail _
  · split
    · exact .pure true
    · split
      · exact .pure false
      · exact .bind (hA.writeError _) fun _ => .pure false

theorem setSwitch (set : Bool → Settings → Settings) (argument : String) :
    Respects (Related W (Sides S D)) (setSwitch set argument) :=
  .bind (hA.booleanArgument _) fun _ => hA.modifySettings _

theorem setExplain (argument? : Option String) :
    Respects (Related W (Sides S D)) (setExplain argument?) := by
  cases argument? with
  | none => exact .bind (.pure true) fun _ => hA.modifySettings _
  | some a => exact .bind (hA.booleanArgument a) fun _ => hA.modifySettings _

theorem setMode (name : String) (table? : Option String) :
    Respects (Related W (Sides S D)) (setMode name table?) := by
  unfold Console.setMode
  split
  · exact .fail _
  · exact .fail _
  · exact hA.modifySettings _

theorem setWidthsFrom (i : Nat) (arguments : List String) :
    Respects (Related W (Sides S D)) (setWidthsFrom i arguments) := by
  induction arguments generalizing i with
  | nil => exact .pure ()
  | cons a rest ih =>
    exact .bind (integerArgument a) fun _ => .bind (hA.modifySettings _) fun _ => ih (i + 1)

/-! Commands for the engine itself. -/

theorem loadExtension (file : String) (start? : Option String) :
    Respects (Related W (Sides S D)) (loadExtension file start?) := by
  refine hA.connected fun _ _ _ => hA.steady.world (fun _ _ => rfl) fun w => ?_
  dsimp only
  split
  · exact .fail _
  · exact .fail _
  · exact .bind (hA.steady.event _) fun _ => .raise _

theorem setTimeout (argument : String) : Respects (Related W (Sides S D)) (setTimeout argument) :=
  hA.connected fun _ _ _ => .bind (integerArgument _) fun _ => hA.steady.event _

theorem runTestControl (name : String) (options : Nat) :
    Respects (Related W (Sides S D)) (runTestControl name options) := by
  refine .bind ?_ fun _ => .fail _
  unfold testControl
  split
  · exact .pure _
  · dsimp only
    split
    · refine .bind (hA.writeError _) fun _ => .bind (integerArgument name) fun n => ?_
      split
      · exact .pure _
      · exact .fail _
    · refine .bind (integerArgument name) fun n => ?_
      split
      · exact .pure _
      · exact .fail _

/-! Commands that report. -/

theorem showSettings : Respects (Related W (Sides S D)) showSettings := by
  refine .own_of fun c _ h => ?_
  obtain ⟨db?, hrest, -⟩ := h
  exact .forM fun _ _ => hA.steady.write (hA.output hrest) _

theorem showVersion : Respects (Related W (Sides S D)) showVersion :=
  hA.steady.world (fun _ _ => rfl) fun _ => hA.writeOutput _

theorem showFileSystem (database : String) :
    Respects (Related W (Sides S D)) (showFileSystem database) := by
  refine .own_of fun c _ h => ?_
  obtain ⟨db?, hrest, hdb⟩ := h
  have hsame : db?.isSome = c.db.isSome := by
    cases hlink : c.db with
    | none =>
      rw [hlink] at hdb
      rw [(hA.unopened hdb).1]
    | some db =>
      rw [hlink] at hdb
      obtain ⟨_, rfl, -⟩ := hA.linked hdb
      rfl
  dsimp only
  rw [hsame]
  split
  · refine hA.steady.world (fun _ _ => rfl) fun w => ?_
    split
    · split
      · exact hA.writeOutput _
      · exact .pure ()
    · exact .pure ()
  · exact .pure ()

theorem showHelp (names : List String) : Respects (Related W (Sides S D)) (showHelp names) := by
  unfold Console.showHelp
  split
  · exact hA.writeError _
  · exact hA.writeError _
  · exact .fail _

/-! Copies of databases. -/

theorem copySteps (answers : List Engine.StepAnswer) (fuel taken retries : Nat) :
    Respects (Related W (Sides S D)) (copySteps answers fuel taken retries) := by
  induction fuel generalizing taken retries with
  | zero => exact .fail _
  | succ fuel ih =>
    refine .bind (hA.steady.event _) fun _ => ?_
    split
    · exact .pure ()
    · exact ih _ _
    · exact .fail _
    · split
      · split
        · exact .bind (hA.steady.event _) fun _ => ih _ _
        · exact .fail _
      · exact .fail _

theorem copyDatabase (target targetDb source sourceDb : String) :
    Respects (Related W (Sides S D)) (copyDatabase target targetDb source sourceDb) := by
  refine .bind (hA.steady.event _) fun _ => hA.steady.world (fun _ _ => rfl) fun w => ?_
  refine .bind (hA.steady.modifyWorld (fun _ _ => rfl) fun _ => .of_handles rfl rfl rfl) fun _ => ?_
  split
  · exact .fail _
  · exact .ensuring (hA.copySteps _ _ _ _) (hA.steady.event _)

theorem openOther (filename : String) : Respects (Related W (Sides S D)) (openOther filename) := by
  refine .bind (hA.steady.event _) fun _ => hA.steady.world (fun _ _ => rfl) fun w => ?_
  split
  · exact .fail _
  · exact .fail _
  · exact .pure ()

theorem backup (arguments : List String) : Respects (Related W (Sides S D)) (backup arguments) := by
  unfold Console.backup
  split
  · exact .fail _
  · exact .fail _
  · refine .bind (hA.openOther _) fun _ => .ensuring (hA.connected fun db db' hdb => ?_) (hA.steady.event _)
    rw [hA.filename hdb]
    exact hA.copyDatabase _ _ _ _

theorem restore (database file : String) : Respects (Related W (Sides S D)) (restore database file) := by
  refine .bind (hA.openOther _) fun _ => .ensuring (hA.connected fun db db' hdb => ?_) (hA.steady.event _)
  rw [hA.filename hdb]
  exact hA.copyDatabase _ _ _ _

/-! Imports. -/

theorem insertRecords {insert insert' : Delimited.Record → Act Console Unit}
    (hinsert : ∀ r, Agrees (Related W (Sides S D)) (insert r) (insert' r)) (fuel : Nat)
    (g : Delimited.Gathering) (source : Source) :
    Agrees (Related W (Sides S D)) (insertRecords insert fuel g source)
      (insertRecords insert' fuel g source) := by
  induction fuel generalizing g source with
  | zero => exact .fail _
  | succ fuel ih =>
    refine .bind (hA.steady.readLine source) fun read => ?_
    split
    · split
      · exact .pure ()
      · exact .bind (hinsert _) fun _ => ih _ _
    · exact .bind (.option_forM fun _ _ => hinsert _) fun _ => ih _ _

omit hA in
theorem insertRecord {session : Session} {db db' : Connection} (h : Paired K W session db db')
    (file sql : String) (columns : Nat) (r : Delimited.Record) :
    Agrees (Related W (Sides S D)) (insertRecord session db file sql columns r)
      (insertRecord session db' file sql columns r) := by
  unfold Console.insertRecord
  dsimp only
  split
  · exact .fail _
  · exact h.perform _ _

theorem insertAll {session : Session} {db db' : Connection} (h : Paired K W session db db')
    (file sql : String) (columns : Nat) (source : Source) :
    Agrees (Related W (Sides S D)) (insertAll session db file sql columns source)
      (insertAll session db' file sql columns source) := by
  refine .bind (h.perform _ _) fun _ => .bind (.attempt ?_) fun ending => ?_
  · exact .bind (hA.steady.lineLimit source) fun _ =>
      hA.insertRecords (fun _ => insertRecord h _ _ _ _) _ _ _
  · cases ending with
    | ok _ => exact h.perform _ _
    | error f => exact .bind (h.perform _ _) fun _ => .fail f

theorem importFile (file table : String) : Respects (Related W (Sides S D)) (importFile file table) := by
  refine .own_of fun c _ h => ?_
  obtain ⟨db?, -, -⟩ := h
  split
  · exact .fail _
  · refine hA.prepared fun db db' c _ _ h => ?_
    refine .bind (h.columnCount _ _) fun columns => ?_
    split
    · refine .bind (h.columnCount _ _) fun _ => .bind (hA.steady.openSource? _ _) fun source? => ?_
      cases source? with
      | none => exact .fail _
      | some source => exact hA.insertAll h _ _ _ _
    · exact .pure ()

/-! Commands that list what a database holds. -/

/-- Rows are shown in layouts of their own. -/
theorem writeRow (h : S c) (row : Layout.Row) {t : Settings} :
    Respects (Related W Eq) (Layout.writeRow { c.session with settings := t } row) :=
  Layout.respects_writeRow hA.steady (hA.output (hA.settings h t)) row

theorem showQuery (change : Settings → Settings) (sql : String) (bindings : List Sql.Value) :
    Respects (Related W (Sides S D)) (showQuery change sql bindings) := by
  refine hA.prepared fun db db' c _ hrest h =>
    .within_same (h.catalog (fun row => .bind ?_ fun _ => .pure false) _ _)
  exact hA.writeRow hrest row

theorem showIndexes (pattern? : Option String) :
    Respects (Related W (Sides S D)) (showIndexes pattern?) := by
  unfold Console.showIndexes
  cases pattern? with
  | none => exact hA.showQuery _ _ _
  | some p => exact hA.showQuery _ _ _

theorem showSchema (pattern? : Option String) :
    Respects (Related W (Sides S D)) (showSchema pattern?) := by
  cases pattern? with
  | none => exact hA.showQuery _ _ _
  | some p =>
    unfold Console.showSchema
    dsimp only
    split
    · refine .own_of fun c _ h => ?_
      obtain ⟨db?, hrest, -⟩ := h
      exact .within_same (hA.writeRow hrest _)
    · exact hA.showQuery _ _ _

theorem showTables (pattern? : Option String) :
    Respects (Related W (Sides S D)) (showTables pattern?) := by
  refine hA.prepared fun db db' c _ _ h => .bind (h.gather _ _ _) fun databases =>
    .bind (h.gather _ _ _) fun values => .bind (Paired.require _) fun names => ?_
  exact .forM fun _ _ => h.write _

theorem dump (patterns : List String) : Respects (Related W (Sides S D)) (dump patterns) :=
  hA.prepared fun _ _ _ _ _ h => .within_same (.discard (Dump.agrees_script h patterns))

/-! SQL text. -/

theorem tellUsage (hrest : S c) : Respects (Related W (Sides S D)) (tellUsage c.session) := by
  unfold Console.tellUsage
  split
  · exact hA.steady.world (fun _ _ => rfl) fun w =>
      .bind (hA.steady.modifyWorld (fun _ _ => rfl) fun _ => .of_handles rfl rfl rfl) fun _ =>
        .forM fun _ _ => hA.steady.write (hA.output hrest) _
  · exact .pure ()

theorem runSql (hstatement : ∀ w w' t, W w w' → W { w with statement := t } { w' with statement := t })
    (sql : String) (line? : Option Int) : Respects (Related W (Sides S D)) (runSql sql line?) := by
  refine hA.attempted (fun db db' hdb => .own_of fun c _ h => ?_) fun f => ?_
  · obtain ⟨db?, hrest, -⟩ := h
    refine .ensuring (.within_same ((hA.paired hdb hrest).run hstatement (fun row => ?_) (fun e => ?_) sql))
      (hA.tellUsage hrest)
    · exact .bind (hA.writeRow hrest _) fun _ => .pure false
    · exact hA.steady.write (k := .stderr) hA.streams _
  · cases f with
    | complaint c => exact .bind (hA.writeError _) fun _ => .pure 1
    | _ => exact .fail _

/-! Commands that choose sinks. -/

theorem openSink? (name : String) : Respects (Related W (Sides S D)) (openSink? name) := by
  unfold Console.openSink?
  split
  · exact .pure _
  · split
    · exact .pure _
    · split
      · exact .pure none
      · exact .bind (hA.steady.openFile _) fun _ => .pure _

/-- A sink that is opened by its name, or given by it, is of the one kind. -/
theorem opening {β : Type} (name : String) {F G : Except Failure (Option Sink) → Act Console β}
    (hok : ∀ k? : Option Sink, (∀ k ∈ k?, K k.id?) →
      Agrees (Related W (Sides S D)) (F (.ok k?)) (G (.ok k?)))
    (herror : ∀ f, Agrees (Related W (Sides S D)) (F (.error f)) (G (.error f))) :
    Agrees (Related W (Sides S D)) (Act.attempt (Console.openSink? name) >>= F)
      (Act.attempt (Console.openSink? name) >>= G) := by
  refine .bind_of (p := fun ending => ∀ k?, ending = .ok k? → ∀ k ∈ k?, K k.id?)
    (.attempt (hA.openSink? name)) ?_ ?_
  · rintro s t h _ ⟨⟩ k? hk? k hk
    unfold Console.openSink? at hk?
    split at hk?
    · cases hk?
      cases hk
      exact hA.streams
    · split at hk?
      · cases hk?
        cases hk
        exact hA.streams
      · split at hk?
        · cases hk?
          cases hk
        · rcases hfile : Act.openFile name s with ⟨f | k', s'⟩
          · rw [Act.bind_error hfile] at hk?
            cases hk?
          · rw [Act.bind_ok hfile] at hk?
            cases hk?
            cases hk
            have hid : k.id? = some s.world.handles.length := Act.id_of_openFile (by rw [hfile])
            rw [hid]
            exact hA.steady.fresh h.world
  · intro ending hending
    rcases ending with f | k?
    · exact herror f
    · exact hok k? (hending k? rfl)

theorem installOutput (hput : ∀ c k, S c → K k.id? → S { c with session := { c.session with output := k } })
    {k : Sink}
    (hk : K k.id?) : Respects (Related W (Sides S D)) (installOutput k) := by
  refine .own_of fun c _ h => ?_
  obtain ⟨db?, hrest, -⟩ := h
  refine .bind (.modifyOwn fun c c' h => ?_) fun _ => ?_
  · exact h.change (f := fun c => { c with session := { c.session with output := k } })
      (hput _ _ h.rest_left hk) rfl fun _ => rfl
  · dsimp only
    split
    · exact hA.steady.close (hA.output hrest)
    · exact .pure ()

theorem setOutput (hput : ∀ c k, S c → K k.id? → S { c with session := { c.session with output := k } })
    (target : String) :
    Respects (Related W (Sides S D)) (setOutput target) := by
  refine .bind (hA.installOutput hput hA.streams) fun _ => ?_
  split
  · exact .pure ()
  · split
    · refine .bind_of (p := fun k => K k.id?) (hA.steady.openCommand _) (fun s t h k hk => ?_)
        fun k hk => hA.installOutput hput hk
      rw [Act.id_of_openCommand hk]
      exact hA.steady.fresh h.world
    · refine .bind_of (p := fun k => K k.id?) (hA.steady.openFile _) (fun s t h k hk => ?_)
        fun k hk => hA.installOutput hput hk
      rw [Act.id_of_openFile hk]
      exact hA.steady.fresh h.world

theorem setLog (hput : ∀ c k?, S c → (∀ k ∈ k?, K k.id?) →
      S { c with session := { c.session with log := k? } })
    (hlogging : ∀ w w' b, W w w' → W { w with logging := b } { w' with logging := b }) (name : String) :
    Respects (Related W (Sides S D)) (setLog name) := by
  have hinstall (k? : Option Sink) (hk : ∀ k ∈ k?, K k.id?) : Respects (Related W (Sides S D)) (do
      (← Act.own).session.log.forM Act.close
      modifySession fun s => { s with log := k? }
      Act.modifyWorld fun w => { w with logging := k?.isSome }) := by
    refine .own_of fun c _ h => ?_
    obtain ⟨db?, hrest, -⟩ := h
    refine .bind (.option_forM fun k hk => hA.steady.close (hA.log hrest k hk)) fun _ =>
      .bind (.modifyOwn fun c c' h => ?_) fun _ => .modifyWorld fun _ _ h => ⟨hlogging _ _ _ h.world, h.own⟩
    exact h.change (f := fun c => { c with session := { c.session with log := k? } })
      (hput _ _ h.rest_left hk) rfl fun _ => rfl
  refine hA.opening name (fun k? hk => hinstall k? hk) fun f => ?_
  cases f with
  | complaint c => exact .bind (hinstall none nofun) fun _ => .fail _
  | _ => exact .fail _

/-! Lines. -/

/-- Commands that do not choose sinks, and read no file. -/
theorem runCommand (feed : Source → Act Console Outcome) {command : Command}
    (hcommand : command ∉ directing) (hread : command ≠ .read) (arguments : List String) :
    Respects (Related W (Sides S D)) (runCommand feed command arguments) := by
  have hdone {x : Act Console Unit} (hx : Respects (Related W (Sides S D)) x) :
      Respects (Related W (Sides S D)) (do x; pure Outcome.success) := .bind hx fun _ => .pure _
  cases command with
  | backup => exact hdone (hA.backup _)
  | bail => exact hdone (hA.setSwitch _ _)
  | breakpoint => exact .pure _
  | databases => exact hdone (hA.showQuery _ _ _)
  | dump => exact hdone (hA.dump _)
  | echo => exact hdone (hA.setSwitch _ _)
  | exit =>
    show Respects (Related W (Sides S D)) (exit arguments.head?)
    unfold exit
    cases arguments.head? with
    | none => exact .pure _
    | some a =>
      refine .bind (integerArgument a) fun code => ?_
      split
      · exact .pure _
      · exact .fail _
  | explain => exact hdone (hA.setExplain _)
  | headers => exact hdone (hA.setSwitch _ _)
  | help => exact hdone (hA.showHelp _)
  | import_ => exact hdone (hA.importFile _ _)
  | indices => exact hdone (hA.showIndexes _)
  | load => exact hdone (hA.loadExtension _ _)
  | log => exact absurd List.mem_cons_self hcommand
  | mode => exact hdone (hA.setMode _ _)
  | nullvalue => exact hdone (hA.modifySettings _)
  | output => exact absurd (by decide) hcommand
  | print => exact hdone (hA.writeOutput _)
  | prompt => exact hdone (hA.modifySettings _)
  | quit => exact .pure _
  | read => exact absurd rfl hread
  | restore =>
    unfold Console.runCommand
    dsimp only
    split
    · exact hdone (hA.restore _ _)
    · exact hdone (hA.restore _ _)
  | schema => exact hdone (hA.showSchema _)
  | separator => exact hdone (hA.modifySettings _)
  | show_ => exact hdone hA.showSettings
  | stats => exact hdone (hA.setSwitch _ _)
  | tables => exact hdone (hA.showTables _)
  | testctrl => exact hdone (hA.runTestControl _ _)
  | timeout => exact hdone (hA.setTimeout _)
  | timer => exact hdone (hA.setSwitch _ _)
  | trace => exact absurd (by decide) hcommand
  | version => exact hdone hA.showVersion
  | vfsname => exact hdone (hA.showFileSystem _)
  | width => exact hdone (hA.setWidthsFrom _ _)

theorem dotLine {feed : Source → Act Console Outcome} {line : List Char}
    (hcommand : ∀ command arguments, Means line command arguments →
      Respects (Related W (Sides S D)) (Console.runCommand feed command arguments)) :
    Respects (Related W (Sides S D)) (dotLine feed line) := by
  by_cases hmeans : ∃ command arguments, Means line command arguments
  · obtain ⟨command, arguments, hmeans⟩ := hmeans
    rw [dotLine_of_means hmeans]
    refine .bind (.attempt (hcommand command arguments hmeans)) fun ending => ?_
    split
    · exact .pure _
    · split
      · exact .bind (hA.writeError _) fun _ => .pure _
      · exact .fail _
  · rcases dotLine_of_not_means feed fun command arguments h => hmeans ⟨command, arguments, h⟩ with
      heq | ⟨text, heq⟩ <;> rw [heq]
    · exact .pure _
    · exact .bind (hA.writeError text) fun _ => .pure _

end Accord

/-! What stays as it is. -/

/-- The worlds are the same, and `P` says something of the engine's log and the statement that is run. -/
def Still (P : Bool → Option String → Prop) (w w' : World) : Prop := w' = w ∧ P w.logging w.statement

variable {P : Bool → Option String → Prop} {Q : Option Connection → Prop}

theorem Accord.still
    (hS : ∀ c t, S c → S { c with session := { c.session with settings := t } })
    (hopened : ∀ c filename db?, S c → S { c with filename, db := db? })
    (hQ : Q none → ∀ filename, Q (some { filename })) :
    Accord (fun _ => True) (Still P) S fun db? db?' => db?' = db? ∧ Q db? := by
  have hsteady : Steady (fun _ => True) (Still P) :=
    { same := by
        rintro w _ ⟨rfl, -⟩
        rfl
      changed := by
        rintro w _ v ⟨rfl, hP⟩ hpast hpreserves
        rw [← hpast]
        exact ⟨rfl, hpreserves.logging ▸ hpreserves.statement ▸ hP⟩
      noted := by
        rintro w _ d ⟨rfl, hP⟩ -
        exact ⟨rfl, hP⟩
      fresh := fun _ => trivial }
  refine ⟨hsteady, trivial, fun h t => hS _ t h,
    fun h filename db? => hopened _ filename db? h, fun _ => trivial, fun _ _ _ => trivial, ?_, ?_⟩
  · rintro _ ⟨rfl, hnone⟩
    exact ⟨rfl, fun filename => ⟨rfl, hQ hnone filename⟩⟩
  · rintro db _ ⟨rfl, -⟩
    refine ⟨db, rfl, rfl, fun _ _ => ⟨hsteady, trivial, fun _ _ => trivial, fun sql => .bind ?_ ?_⟩⟩
    · refine .modifyWorld fun s t h => ⟨⟨?_, h.world.2⟩, h.own⟩
      rw [h.world.1]
    · intro _
      unfold Execute.trace
      split
      · exact hsteady.write trivial _
      · exact .pure ()

/-- What is said of the scene still holds after the action. -/
theorem keeps_still {x : Act Console α}
    (h : Respects (Related (Still P) (Sides S fun db? db?' => db?' = db? ∧ Q db?)) x) :
    Act.Keeps (fun s => P s.world.logging s.world.statement ∧ S s.own ∧ Q s.own.db) x := by
  rintro s ⟨hP, hS, hQ⟩
  obtain ⟨-, hworld, hsides⟩ := h s s ⟨⟨rfl, hP⟩, .mk s.own.db hS ⟨rfl, hQ⟩⟩
  rcases hx : x s with ⟨f | a, t⟩ <;> rw [hx] at hworld hsides <;>
    exact ⟨hworld.2, hsides.rest_left, hsides.linked.2⟩

end SqlConsole.Console

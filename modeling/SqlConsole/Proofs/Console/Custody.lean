import SqlConsole.Console.Dispatch
import SqlConsole.Proofs.Dump.Custody

/-! A console between commands: the sinks of its session are held and no others, and no database is open
but its own. Commands that only use what is open leave the session as it is. -/
namespace SqlConsole

/-- The connections of a console that is not copying anything. -/
def Links.of (db : Option Connection) (other : Option String) (copies : List Engine.BackupAnswer) :
    Links :=
  { main := db.map (·.filename), spent := db.isSome, other, copies }

def Sink.heldOf (k? : Option Sink) : List Sink := k?.toList.flatMap Sink.held

/-- The sinks that the session keeps. -/
def Session.held (s : Session) : List Sink :=
  s.output.held ++ (Sink.heldOf s.trace ++ Sink.heldOf s.log)

theorem Session.mem_held (s : Session) {k : Sink} (hk : k ∈ s.sinks) : k.isStream ∨ k ∈ s.held := by
  cases hstream : k.isStream with
  | true => exact .inl rfl
  | false =>
    have hself : k ∈ k.held := by simp [Sink.held, hstream]
    right
    simp only [Session.sinks, List.mem_cons, List.mem_append, Option.mem_toList] at hk
    simp only [Session.held, Sink.heldOf, List.mem_append, List.mem_flatMap, Option.mem_toList]
    rcases hk with rfl | hk | hk
    · exact .inl hself
    · exact .inr (.inl ⟨k, hk, hself⟩)
    · exact .inr (.inr ⟨k, hk, hself⟩)

theorem Session.output_held (s : Session) : s.output.isStream ∨ s.output ∈ s.held :=
  s.mem_held List.mem_cons_self

/-- Rows are shown in layouts of their own where the session's text goes. -/
theorem Session.shown_held (s : Session) (t : Settings) :
    ({ s with settings := t } : Session).output.isStream ∨
      ({ s with settings := t } : Session).output ∈ s.held := s.output_held

namespace Origin

/-- The console is in that session. Besides the sinks that the session keeps some may have been opened
that are not installed yet, and besides the console's own database another one. -/
def RestsWith (o : Origin) (extra : List Sink) (other : Option String) (session : Session)
    (s : Scene Console) : Prop :=
  s.own.session = session ∧
    o.Accounts (extra ++ session.held) (.of s.own.db other s.world.script.backups) s.world

def Rests (o : Origin) : Session → Scene Console → Prop := o.RestsWith [] none

/-- What a console keeps for itself, as long as it neither changes its session nor opens its database. -/
def Keeping (session : Session) (db : Option Connection) (c : Console) : Prop :=
  c.session = session ∧ c.db = db

variable {o : Origin} {extra : List Sink} {other : Option String} {session : Session}
  {db : Option Connection} {copies : List Engine.BackupAnswer} {α : Type} {x : Act Console α}
  {F : Failure → Prop}

theorem At.rests {s : Scene Console}
    (h : o.At (extra ++ session.held) (.of db other copies) (Keeping session db) s) :
    o.RestsWith extra other session s := by
  obtain ⟨⟨hsession, hdb⟩, h⟩ := h
  have hcopies : s.world.script.backups = copies := h.copies
  exact ⟨hsession, by rwa [hdb, hcopies]⟩

theorem RestsWith.at {s : Scene Console} (h : o.RestsWith extra other session s) :
    o.At (extra ++ session.held) (.of s.own.db other s.world.script.backups)
      (Keeping session s.own.db) s := ⟨⟨h.1, rfl⟩, h.2⟩

/-- What goes on may rely on the connections that there are. -/
theorem ensures_resting {Q : α → Scene Console → Prop} {E : Failure → Scene Console → Prop}
    (h : ∀ db copies,
      Act.Ensures (o.At (extra ++ session.held) (.of db other copies) (Keeping session db)) x Q E) :
    Act.Ensures (o.RestsWith extra other session) x Q E := fun s hs => h _ _ s hs.at

theorem safe_resting
    (h : ∀ db copies,
      Act.Safe (o.At (extra ++ session.held) (.of db other copies) (Keeping session db)) F x) :
    Act.Safe (o.RestsWith extra other session) F x :=
  ensures_resting fun db copies =>
    Act.Ensures.mono (h db copies) (fun _ hs => hs) (fun _ _ hs => hs.rests)
      fun _ _ hs => ⟨hs.1.rests, hs.2⟩

/-- What is made of the console may rely on its session. -/
theorem ensures_own {held : List Sink} {links : Links} {f : Console → Act Console α}
    {Q : α → Scene Console → Prop} {E : Failure → Scene Console → Prop}
    (h : ∀ c, c.session = session → c.db = db →
      Act.Ensures (o.At held links (Keeping session db)) (f c) Q E) :
    Act.Ensures (o.At held links (Keeping session db)) (Act.own >>= f) Q E :=
  fun s hs => h s.own hs.1.1 hs.1.2 s hs

/-- What goes on after the database has been opened may rely on that. -/
theorem ensures_connected {db : Connection} {Q : α → Scene Console → Prop}
    {E : Failure → Scene Console → Prop}
    (h : ∀ copies, Act.Ensures
      (o.At (extra ++ session.held) (.of (some db) other copies) (Keeping session (some db))) x Q E) :
    Act.Ensures (fun s => s.own.db = some db ∧ o.RestsWith extra other session s) x Q E := by
  rintro s ⟨hdb, hs⟩
  have hat := hs.at
  rw [hdb] at hat
  exact h _ s hat

end Origin

namespace Console
open Act (Ensures Safe)
open Origin (Keeping)

variable {o : Origin} {extra : List Sink} {other : Option String} {session : Session}
  {F : Failure → Prop}

/-- The session, with whatever settings, relies on what is open. -/
theorem serves {db : Connection} {copies : List Engine.BackupAnswer} {shown : Session}
    (hshown : shown.sinks = session.sinks) (hF : ∀ f, o.Expects f → F f) :
    o.Serves session.held (.of (some db) other copies) shown F where
  sinks _ hk := session.mem_held (hshown ▸ hk)
  main := rfl
  expected := hF

/-- What the database is opened by. -/
def mainFile (c : Console) : String :=
  if (c.filename.getD "").isEmpty then memoryName else c.filename.getD ""

theorem connection_apply {s : Scene Console} (hdb : s.own.db = none) :
    connection s = (match s.world.script.openFault? (mainFile s.own) with
      | some (.error e) => Act.complain (.cannotOpenDatabase (mainFile s.own) e.message)
      | some .interrupted => Act.fail .interrupted
      | none => do
        Act.modifyOwn fun c => { c with db := some { filename := mainFile s.own } }
        pure { filename := mainFile s.own } : Act Console Connection)
          { world := { s.world with
              past := .engine (.openMain (mainFile s.own) s.own.fileSystem) :: s.world.past }
            own := { s.own with filename := some (mainFile s.own) } } := by
  unfold connection
  rw [Act.bind_ok (show Act.own s = (.ok s.own, s) from rfl), hdb]
  rfl

theorem ensures_connection (hF : ∀ f, o.Expects f → F f) :
    Ensures (o.RestsWith extra other session) connection
      (fun db s => s.own.db = some db ∧ o.RestsWith extra other session s)
      (fun f s => o.RestsWith extra other session s ∧ F f) := by
  refine Origin.ensures_resting fun db copies => ?_
  rintro s ⟨⟨hsession, hdb⟩, hs⟩
  cases db with
  | some db =>
    unfold connection
    rw [Act.bind_ok (show Act.own s = (.ok s.own, s) from rfl), hdb]
    exact ⟨hdb, Origin.At.rests ⟨⟨hsession, hdb⟩, hs⟩⟩
  | none =>
    rw [connection_apply hdb]
    let file := mainFile s.own
    let event : Engine.Event := .openMain file s.own.fileSystem
    let own : Console := { s.own with filename := some file }
    let w : World := { s.world with past := .engine event :: s.world.past }
    have hfault := hs.script.openFault?_eq file
    cases hopen : s.world.script.openFault? file with
    | none =>
      have hevent : (Links.of none other copies).after o.script event =
          some (Links.of (some { filename := file }) other copies) := by
        simp [Links.after, Links.of, event, ← hfault, hopen]
      exact ⟨rfl, Origin.At.rests ⟨⟨hsession, rfl⟩, hs.event hevent rfl⟩⟩
    | some f =>
      have hevent : (Links.of none other copies).after o.script event =
          some (Links.of none other copies) := by
        simp [Links.after, Links.of, event, ← hfault, hopen]
      have hrests : o.RestsWith extra other session ⟨w, own⟩ :=
        Origin.At.rests ⟨⟨hsession, hdb⟩, hs.event hevent rfl⟩
      cases f with
      | error e => exact ⟨hrests, hF _ (Origin.expects_complaint _)⟩
      | interrupted =>
        have hmem := hs.script.faults (Engine.Script.mem_faults_of_open _ hopen)
        exact ⟨hrests, hF _ (Origin.expects_ofFault hmem)⟩

section Commands
variable (hF : ∀ f, o.Expects f → F f)

include hF

theorem safe_connected {α : Type} {f : Connection → Act Console α}
    (hf : ∀ db copies, Safe
      (o.At (extra ++ session.held) (.of (some db) other copies) (Keeping session (some db))) F (f db)) :
    Safe (o.RestsWith extra other session) F (connection >>= f) := by
  refine Ensures.bind (ensures_connection hF) fun db => Origin.ensures_connected fun copies => ?_
  exact Ensures.mono (hf db copies) (fun _ hs => hs) (fun _ _ hs => hs.rests)
    fun _ _ hs => ⟨hs.1.rests, hs.2⟩

/-! Commands that write. -/

omit hF in
theorem safe_writeError (text : String) : Safe (o.RestsWith extra other session) F (writeError text) :=
  Origin.safe_resting fun _ _ => Origin.safe_tellStream rfl _

theorem safe_writeOutput (text : List Char) : Safe (o.Rests session) F (writeOutput text) := by
  refine Origin.safe_resting fun db copies => .own fun s hs => ?_
  rw [hs.1.1]
  exact Origin.safe_write hF session.output_held _

theorem safe_showSettings : Safe (o.Rests session) F showSettings := by
  refine Origin.safe_resting fun db copies => .own fun s hs => ?_
  rw [hs.1.1]
  exact .forM (fun _ => Origin.safe_write hF session.output_held _) _

theorem safe_showFileSystem (database : String) :
    Safe (o.Rests session) F (showFileSystem database) := by
  refine .own fun s _ => ?_
  split
  · refine .world fun t _ => ?_
    split
    · split
      · exact safe_writeOutput hF _
      · exact .pure ()
    · exact .pure ()
  · exact .pure ()

theorem safe_showHelp (names : List String) : Safe (o.Rests session) F (showHelp names) := by
  unfold showHelp
  split
  · exact safe_writeError _
  · exact safe_writeError _
  · exact .fail (hF _ (Origin.expects_complaint _))

/-! Commands that ask the engine. -/

theorem safe_showQuery {change : Settings → Settings}
    (hmissing : ∀ row kept, o.AllowsRow row.columns row.values →
      Layout.rowText (change session.settings) kept row = none → F .missingValue)
    (sql : String) (bindings : List Sql.Value) :
    Safe (o.Rests session) F (showQuery change sql bindings) := by
  refine safe_connected hF fun db copies => .own fun s hs => ?_
  rw [hs.1.1]
  exact Origin.safe_within (Execute.safe_catalog (serves rfl hF) (fun row hrow =>
    .bind (Execute.safe_writeRow hF (session.shown_held _) row fun kept => hmissing row kept hrow)
      fun _ => .pure false) _ _)

omit hF in
private theorem rowText_ne_none {s : Settings} (hmode : s.mode = .list ∨ s.mode = .semi)
    (kept : List Int) (row : Layout.Row) : Layout.rowText s kept row ≠ none := by
  rcases hmode with h | h <;> simp [Layout.rowText, h]

/-- A list of rows needs no values. -/
private theorem safe_showList {change : Settings → Settings}
    (hmode : (change session.settings).mode = .list ∨ (change session.settings).mode = .semi)
    (sql : String) (bindings : List Sql.Value) :
    Safe (o.Rests session) F (showQuery change sql bindings) :=
  safe_showQuery hF (fun row kept _ hnone => absurd hnone (rowText_ne_none hmode kept row)) sql bindings

theorem safe_showIndexes (pattern? : Option String) :
    Safe (o.Rests session) F (showIndexes pattern?) := by
  unfold showIndexes
  cases pattern? with
  | none => exact safe_showList hF (.inl rfl) _ _
  | some p => exact safe_showList hF (.inl rfl) _ _

theorem safe_showSchema (pattern? : Option String) :
    Safe (o.Rests session) F (showSchema pattern?) := by
  cases pattern? with
  | none => exact safe_showList hF (.inr rfl) _ _
  | some p =>
    unfold showSchema
    dsimp only
    split
    · refine Origin.safe_resting fun db copies => .own fun s hs => ?_
      rw [hs.1.1]
      exact Origin.safe_within (Execute.safe_writeRow hF (session.shown_held _) _
        fun kept hnone => absurd hnone (rowText_ne_none (.inr rfl) kept _))
    · exact safe_showList hF (.inr rfl) _ _

/-- The only query that is shown in columns, where each row needs a value for every column. -/
theorem safe_showDatabases (hmissing : ¬ o.script.IsFull → F .missingValue) :
    Safe (o.Rests session) F showDatabases := by
  refine safe_showQuery hF (fun row kept hrow hnone => hmissing fun hfull => ?_) _ _
  obtain ⟨text, widths, htext⟩ := Layout.exists_rowText (hrow hfull) kept
  cases hnone.symm.trans htext

theorem safe_showTables (hrow : ∀ f, F (.catalogRow f)) (pattern? : Option String) :
    Safe (o.Rests session) F (showTables pattern?) := by
  refine safe_connected hF fun db copies => .own fun s hs => ?_
  rw [hs.1.1]
  have hserves : o.Serves session.held (.of (some db) none copies) session F := serves rfl hF
  refine .bind (Execute.safe_gather hserves (fun _ _ _ => hrow _) _ _) fun databases => ?_
  refine .bind (Execute.safe_gather hserves (fun _ _ _ => hrow _) _ _) fun values => ?_
  exact .bind (Execute.safe_require _ fun _ _ => hrow _) fun names =>
    .forM (fun _ => Execute.safe_writeOutput hserves _) _

theorem safe_dump (hrow : ∀ f, F (.catalogRow f)) (patterns : List String) :
    Safe (o.Rests session) F (dump patterns) := by
  refine safe_connected hF fun db copies => .own fun s hs => ?_
  rw [hs.1.1]
  exact Origin.safe_within (.discard (Dump.safe_script (serves rfl hF) hrow patterns))

theorem safe_loadExtension (file : String) (start? : Option String) :
    Safe (o.Rests session) F (loadExtension file start?) := by
  refine safe_connected hF fun db copies => .world fun s hs => ?_
  have hfault (f : Engine.Fault) (hf : s.world.script.enableLoadFault = some f ∨
      s.world.script.loadFault = some f) : F (.ofFault f) :=
    hF _ (Origin.expects_ofFault (hs.2.script.faults (Engine.Script.mem_faults_of_load _ hf)))
  dsimp only
  split
  · exact .fail (hF _ (Origin.expects_complaint _))
  · rename_i heq
    exact .fail (hfault .interrupted (.inl heq))
  · exact .bind (Origin.safe_event rfl) fun _ => .raise _ fun f hf => hfault f (.inr hf)

omit hF in
theorem ensures_integerArgument {I : Scene Console → Prop} {a : String}
    (hnumber : ∀ f, Text.leadingInt a.toList = .error f → F (.number f)) :
    Ensures I (integerArgument a) (fun n s => Text.leadingInt a.toList = .ok n ∧ I s)
      (fun f s => I s ∧ F f) := by
  unfold integerArgument
  split
  · rename_i n hn
    exact .pure fun _ hs => ⟨hn, hs⟩
  · rename_i f hf
    exact .fail fun _ hs => ⟨hs, hnumber f hf⟩

omit hF in
theorem safe_integerArgument {I : Scene Console → Prop} {a : String}
    (hnumber : ∀ f, Text.leadingInt a.toList = .error f → F (.number f)) :
    Safe I F (integerArgument a) := (ensures_integerArgument hnumber).post fun _ _ hs => hs.2

omit hF in
theorem ensures_exit {I : Scene Console → Prop} {a? : Option String}
    (hnumber : ∀ a ∈ a?, ∀ f, Text.leadingInt a.toList = .error f → F (.number f))
    (hexit : ∀ a ∈ a?, ∀ code, Text.leadingInt a.toList = .ok code → code ≠ 0 → F (.exit code)) :
    Ensures I (exit a?) (fun outcome s => outcome = .stop ∧ I s) (fun f s => I s ∧ F f) := by
  cases a? with
  | none => exact .pure fun _ hs => ⟨rfl, hs⟩
  | some a =>
    refine .bind (ensures_integerArgument (hnumber a rfl)) fun code => .assume fun hcode => ?_
    split
    · exact .pure fun _ hs => ⟨rfl, hs⟩
    · rename_i hzero
      exact .fail fun _ hs => ⟨hs, hexit a rfl code hcode hzero⟩

theorem safe_setTimeout {argument : String}
    (hnumber : ∀ f, Text.leadingInt argument.toList = .error f → F (.number f)) :
    Safe (o.Rests session) F (setTimeout argument) :=
  safe_connected hF fun _ _ => .bind (safe_integerArgument hnumber) fun _ => Origin.safe_event rfl

private theorem safe_readControl {name : String}
    (hnumber : ∀ f, Text.leadingInt name.toList = .error f → F (.number f)) :
    Safe (o.Rests session) F (do
      let n ← integerArgument name
      match (if 1 ≤ n then testControls[n.toNat - 1]? else Option.none) with
      | some c => pure c
      | Option.none => Act.complain (.unknownControl name)) := by
  refine .bind (safe_integerArgument hnumber) fun n => ?_
  split
  · exact .pure _
  · exact .fail (hF _ (Origin.expects_complaint _))

theorem safe_runTestControl {name : String} (options : Nat)
    (hnumber : ∀ f, Text.leadingInt name.toList = .error f → F (.number f)) :
    Safe (o.Rests session) F (runTestControl name options) := by
  have hread : Safe (o.Rests session) F _ := safe_readControl hF hnumber
  have hcontrol : Safe (o.Rests session) F (testControl name) := by
    unfold testControl
    split
    · exact .pure _
    · dsimp only
      split
      · exact .bind (safe_writeError _) fun _ => hread
      · exact hread
  exact .bind hcontrol fun _ => .fail (hF _ (Origin.expects_complaint _))

/-! Imports. -/

theorem safe_insertRecord {I : Console → Prop} {db : Connection} {copies : List Engine.BackupAnswer}
    (file sql : String) (columns : Nat) (r : Delimited.Record) :
    Safe (o.At session.held (.of (some db) other copies) I) F
      (insertRecord session db file sql columns r) := by
  unfold insertRecord
  dsimp only
  split
  · exact .fail (hF _ (Origin.expects_complaint _))
  · exact Execute.safe_perform (serves rfl hF) _ _ _

omit hF in
theorem safe_insertRecords {I : Scene Console → Prop} {insert : Delimited.Record → Act Console Unit}
    (hinsert : ∀ r, Safe I F (insert r)) (hcode : F .undecodable) (hendless : F .endless) (fuel : Nat)
    (g : Delimited.Gathering) (source : Source) : Safe I F (insertRecords insert fuel g source) := by
  induction fuel generalizing g source with
  | zero => exact .fail hendless
  | succ fuel ih =>
    refine .bind (Origin.safe_readLine hcode source) fun read => ?_
    split
    · split
      · exact .pure ()
      · exact .bind (hinsert _) fun _ => ih _ _
    · refine .bind ?_ fun _ => ih _ _
      cases (g.add _).1 with
      | none => exact .pure ()
      | some r => exact hinsert r

theorem safe_importFile {file : String} (hname : '\x00' ∈ file.toList → F .zeroCharacter)
    (hcode : F .undecodable) (hendless : F .endless) (table : String) :
    Safe (o.Rests session) F (importFile file table) := by
  refine .own fun s hs => ?_
  rw [hs.1]
  split
  · exact .fail (hF _ (Origin.expects_complaint _))
  · refine safe_connected hF fun db copies => .own fun s hs => ?_
    rw [hs.1.1]
    have hserves : o.Serves session.held (.of (some db) none copies) session F := serves rfl hF
    refine .bind (Execute.safe_columnCount hserves _ _) fun columns => ?_
    split
    · refine .bind (Execute.safe_columnCount hserves _ _) fun _ =>
        .bind (Origin.safe_openSource? hname _) fun source? => ?_
      cases source? with
      | none => exact .fail (hF _ (Origin.expects_complaint _))
      | some source =>
        refine .bind (Execute.safe_perform hserves db _ _) fun _ =>
          .attempt (.bind (Origin.safe_lineLimit source) fun _ => safe_insertRecords
            (fun r => safe_insertRecord hF _ _ _ r) hcode hendless _ _ _) (fun _ => ?_) fun f hf => ?_
        · exact Execute.safe_perform hserves db _ _
        · exact .bind (Execute.safe_perform hserves db _ _) fun _ => .fail hf
    · exact .pure ()

/-! SQL text. -/

/-- What was used is told where results go. -/
theorem safe_tellUsage {held : List Sink} {links : Links} {O : Console → Prop}
    (hout : session.output.isStream ∨ session.output ∈ held) :
    Safe (o.At held links O) F (tellUsage session) := by
  unfold tellUsage
  split
  · exact .world fun _ _ => .bind (Origin.safe_modifyWorld (fun _ => rfl) (fun _ => rfl) (fun _ => rfl)
      fun _ => rfl) fun _ => .forM (fun _ => Origin.safe_write hF hout _) _
  · exact .pure ()

theorem safe_runSql {sql : String} (hsql : Statement.isSettled sql.toList = false → F .zeroCharacter)
    (hmissing : ¬ o.script.IsFull → F .missingValue) (line? : Option Int) :
    Safe (o.Rests session) F (runSql sql line?) := by
  refine Ensures.bind (.attempt (Q := fun opened s => o.Rests session s ∧ match opened with
    | .ok db => s.own.db = some db
    | .error f => F f) ?_) fun opened => ?_
  · exact (ensures_connection hF).mono (fun _ hs => hs) (fun _ _ hs => hs.symm) fun _ _ hs => hs
  · cases opened with
    | error f =>
      have hfails : Ensures (fun s => o.Rests session s ∧ F f) (Act.fail f : Act Console Nat)
          (fun _ => o.Rests session) (fun e s => o.Rests session s ∧ F e) := .fail fun _ hs => hs
      cases f with
      | complaint c =>
        exact (Safe.bind (safe_writeError _) fun _ => .pure 1).pre fun _ hs => hs.1
      | _ => exact hfails
    | ok db =>
      refine (Origin.ensures_connected fun copies => ?_).pre fun s hs => hs.symm
      refine Ensures.mono (Safe.own fun s hs => ?_) (fun _ hs => hs) (fun _ _ hs => hs.rests)
        fun _ _ hs => ⟨hs.1.rests, hs.2⟩
      rw [hs.1.1]
      refine .ensuring (Origin.safe_within (Execute.safe_run (serves rfl hF) (fun row hrow => ?_)
        (fun e => ?_) hsql)) (safe_tellUsage hF session.output_held)
      · refine .bind (Execute.safe_writeRow hF session.output_held row
          fun kept hnone => hmissing fun hfull => ?_) fun _ => .pure false
        obtain ⟨text, widths, htext⟩ := Layout.exists_rowText (hrow hfull) kept
        cases hnone.symm.trans htext
      · exact Origin.safe_tellStream rfl _

end Commands

end Console
end SqlConsole

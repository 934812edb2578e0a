import SqlConsole.Proofs.Engine.Replies
import SqlConsole.Proofs.Execute.Watched
import SqlConsole.Proofs.Layout.Columns
import SqlConsole.Proofs.World.SameBut

/-! Runs that show what they read, beside runs that only read it. -/
namespace SqlConsole

/-- The session with no settings chosen, where statements are not echoed and have no statistics. -/
def Session.plain (session : Session) : Session := { session with settings := {} }

namespace Execute
open Act (Agrees)
open Layout (Row)
open Scene (Related)
open World (SameBut Stays)

variable {σ τ : Type} {k k' : Sink} {w w' w₁ w₁' : World} {O : σ → τ → Prop}

/-- The worlds are the same but for text at the sink. That is open, and no row to come lacks a value. -/
structure Besides (k : Sink) (w w' : World) : Prop extends SameBut k w w' where
  accepts : w.Accepts k
  full : w.script.IsFull

theorem Besides.congr (h : Besides k w w') (hw : SameBut k w₁ w) (hw' : SameBut k w₁' w') :
    Besides k w₁ w₁' :=
  ⟨(hw.trans h.toSameBut).trans hw'.symm, (hw.accepts_iff k).2 h.accepts, hw.script ▸ h.full⟩

theorem Besides.stays (h : Besides k w w') (hw : Stays k' w w₁) (hw' : Stays k' w' w₁')
    (hothers : w₁.others k = w₁'.others k)
    (hhandle : ∀ id, k'.id? = some id → k.id? ≠ some id → w₁.handle? id = w₁'.handle? id) :
    Besides k w₁ w₁' :=
  ⟨h.toSameBut.stays hw hw' hothers hhandle, (hw.accepts_iff k).2 h.accepts, hw.script ▸ h.full⟩

/-- All that have the number of the sink can be written to as well. -/
private theorem accepts_of_id {id : Nat} {name : String} (h : w.Accepts k) (hid : k.id? = some id) :
    w.Accepts (.opened id name) := by
  cases k with
  | opened id' name' =>
    cases hid
    exact h
  | _ => cases hid

/-- The worlds stay the same but for text at the sink where that text goes to it, by whatever name. -/
private theorem Besides.stays_own {id : Nat} {name : String} (h : Besides k w w') (hid : k.id? = some id)
    (hw : Stays (.opened id name) w w₁) (hw' : Stays (.opened id name) w' w₁')
    (hothers : w₁.others k = w₁'.others k) : Besides k w₁ w₁' :=
  h.stays hw hw' hothers fun _ hi hne => absurd (hid.trans hi) hne

private theorem write_besides (k' : Sink) (text : List Char) :
    Agrees (Related (Besides k) O) (Act.write k' text : Act σ Unit) (Act.write k' text) := by
  intro s t h
  cases k' with
  | opened id name =>
    by_cases hid : k.id? = some id
    · -- text for the sink itself is held there together with what it has got before
      obtain ⟨w, hwrite, hstays, hpast⟩ := Act.exists_write (accepts_of_id h.world.accepts hid) text
      obtain ⟨w', hwrite', hstays', hpast'⟩ :=
        Act.exists_write ((h.world.accepts_iff _).1 (accepts_of_id h.world.accepts hid)) text
      rw [hwrite, hwrite']
      exact ⟨rfl, h.world.stays_own hid hstays hstays' (h.world.noted hpast hpast'), h.own⟩
    · have hsame := h.world.handle id hid
      cases hg : s.world.handle? id with
      | none =>
        rw [Act.write_of_not_isOpen (World.not_isOpen_iff.2 hg),
          Act.write_of_not_isOpen (World.not_isOpen_iff.2 (hsame ▸ hg))]
        exact ⟨rfl, h⟩
      | some g =>
        obtain ⟨w, hwrite, hstays, hpast, hhandle⟩ := Act.write_of_handle hg name text
        obtain ⟨w', hwrite', hstays', hpast', hhandle'⟩ :=
          Act.write_of_handle (s := t) (hsame ▸ hg) name text
        rw [hwrite, hwrite', h.world.taking]
        refine ⟨rfl, h.world.stays hstays hstays' (h.world.noted hpast hpast') ?_, h.own⟩
        rintro _ ⟨⟩ -
        rw [hhandle, hhandle', h.world.taking]
  | _ => exact ⟨rfl, h.world.stays ((Stays.refl _ _).note _) ((Stays.refl _ _).note _)
      (h.world.noted rfl rfl) nofun, h.own⟩

private theorem flush_besides (k' : Sink) :
    Agrees (Related (Besides k) O) (Act.flush k' : Act σ Unit) (Act.flush k') := by
  intro s t h
  have hothers {w w' : World} (hpast : w.past = s.world.past) (hpast' : w'.past = t.world.past) :
      w.others k = w'.others k := by
    rw [World.others, World.others, hpast, hpast']
    exact h.world.others
  cases k' with
  | opened id name =>
    by_cases hid : k.id? = some id
    · obtain ⟨w, hflush, hstays, hpast⟩ := Act.exists_flush (accepts_of_id h.world.accepts hid)
      obtain ⟨w', hflush', hstays', hpast'⟩ :=
        Act.exists_flush ((h.world.accepts_iff _).1 (accepts_of_id h.world.accepts hid))
      rw [hflush, hflush']
      exact ⟨rfl, h.world.stays_own hid hstays hstays' (hothers hpast hpast'), h.own⟩
    · have hsame := h.world.handle id hid
      cases hg : s.world.handle? id with
      | none =>
        rw [Act.flush_of_not_isOpen (World.not_isOpen_iff.2 hg),
          Act.flush_of_not_isOpen (World.not_isOpen_iff.2 (hsame ▸ hg))]
        exact ⟨rfl, h⟩
      | some g =>
        obtain ⟨w, hflush, hstays, hpast, hhandle⟩ := Act.flush_of_handle hg name
        obtain ⟨w', hflush', hstays', hpast', hhandle'⟩ :=
          Act.flush_of_handle (s := t) (hsame ▸ hg) name
        rw [hflush, hflush', h.world.taking]
        refine ⟨rfl, h.world.stays hstays hstays' (hothers hpast hpast') ?_, h.own⟩
        rintro _ ⟨⟩ -
        rw [hhandle, hhandle', h.world.taking]
  | _ => exact ⟨rfl, h⟩

theorem alike_besides :
    Alike (fun row => row.columns.length ≤ row.values.length) (Related (Besides k) O) where
  script h := h.world.script
  logging h := h.world.logging
  yields h sql values hvalues _ := h.world.full.answer sql values hvalues
  answered {s t} h sql := by
    have hscript : (s.world.script.answer sql).2 = (t.world.script.answer sql).2 := by
      rw [h.world.script]
    exact ⟨⟨{ h.world.toSameBut with script := hscript }, h.world.accepts, h.world.full.answered sql⟩,
      h.own⟩
  noted h _ := ⟨⟨{ h.world.toSameBut with others := h.world.noted rfl rfl }, h.world.accepts,
    h.world.full⟩, h.own⟩
  tallied h _ := ⟨h.world.congr (.of_eq rfl rfl rfl rfl rfl) (.of_eq rfl rfl rfl rfl rfl), h.own⟩
  running h _ := ⟨h.world.congr (.of_eq rfl rfl rfl rfl rfl) (.of_eq rfl rfl rfl rfl rfl), h.own⟩
  write := write_besides
  flush := flush_besides

/-- Text that goes to the sink makes no difference. -/
private theorem write_beside (text : List Char) :
    Agrees (Related (Besides k) O) (Act.write k text) (pure ()) := by
  intro s t h
  obtain ⟨w, hwrite, hstays, hpast⟩ := Act.exists_write h.world.accepts text
  rw [hwrite]
  exact ⟨rfl, h.world.congr (.of_stays hstays hpast) (.refl k _), h.own⟩

private theorem forM_beside (texts : List (List Char)) :
    Agrees (Related (Besides k) O) (texts.forM (Act.write k)) (pure ()) := by
  induction texts with
  | nil => exact .pure ()
  | cons text texts ih => exact (write_beside text).before ih

private theorem writeStatistics_beside (session : Session) (c : Engine.Counters) :
    Agrees (Related (Besides session.output) O) (writeStatistics session true (some c)) (pure ()) :=
  .world_before fun _ => forM_beside _

/-- Counting makes no difference either. -/
private theorem counted_beside {x : Act σ Unit} {f : Engine.Counters → Act σ Unit} {y : Act τ Unit}
    (hxy : Agrees (Related (Besides k) O) x y)
    (hf : ∀ c, Agrees (Related (Besides k) O) (f c) (pure ())) :
    Agrees (Related (Besides k) O) (counted x >>= f) y := by
  intro s t h
  have hcounting {s : Scene σ} {t : Scene τ} (c : Option Engine.Counters)
      (h : Related (Besides k) O s t) : Related (Besides k) O (s.counting c) t :=
    ⟨h.world.congr (.of_eq rfl rfl rfl rfl rfl) (.refl k _), h.own⟩
  obtain ⟨hend, hscenes⟩ := hxy _ _ (hcounting (some {}) h)
  rcases hx : x (s.counting (some {})) with ⟨e | _, s₁⟩ <;> rw [hx] at hend hscenes
  · rw [Act.bind_error (counted_error hx)]
    exact ⟨hend, hcounting none hscenes⟩
  · rw [Act.bind_ok (counted_ok hx)]
    obtain ⟨hend', hscenes'⟩ := hf _ _ _ (hcounting none hscenes)
    exact ⟨hend'.trans hend, hscenes'⟩

/-- A statement is run as it is without any settings, if its rows are read as they are then. -/
private theorem runStatement_beside {session : Session} {db : Connection} {each : Row → Act σ Bool}
    {each' : Row → Act τ Bool} (heach : ∀ row, row.columns.length ≤ row.values.length →
      Agrees (Related (Besides session.output) O) (each row) (each' row)) (p : List Char) :
    Agrees (Related (Besides session.output) O) (runStatement session db each p)
      (runStatement session.plain db each' p) := by
  have hdeliver : Agrees (Related (Besides session.output) O) (deliver session db each p)
      (deliver session.plain db each' p) := alike_besides.deliver ⟨rfl, rfl⟩ heach p
  refine .bind (.bind (alike_besides.setStatement _) fun _ => ?_) fun _ => ?_
  · cases session.settings.echo with
    | true => exact write_beside _
    | false => exact .pure ()
  · cases session.settings.stats with
    | true => exact counted_beside hdeliver (writeStatistics_beside session)
    | false => exact hdeliver

/-- Shows a row, and does not stop there. -/
def showRow (session : Session) (row : Row) : Act (List Int) Bool := do
  Layout.writeRow session row
  pure false

/-- A row that lacks no value is shown where the output is open, whatever the layout. -/
private theorem showRow_beside {session : Session} {row : Row}
    (hrow : row.columns.length ≤ row.values.length) :
    Agrees (Related (Besides session.output) fun _ (_ : Unit) => True) (showRow session row)
      (pure false) := by
  have hwrite : Agrees (Related (Besides session.output) fun _ (_ : Unit) => True)
      (Layout.writeRow session row) (pure ()) := by
    intro s t h
    obtain ⟨text, widths, htext⟩ := Layout.exists_rowText hrow s.own
    rw [Layout.writeRow_of_text htext]
    exact write_beside text _ t ⟨h.world, trivial⟩
  exact hwrite.before (f := fun _ => pure false) (.pure false)

private theorem recording_beside {α : Type} (f : Record → Record) {x : Act σ α} {y : Act τ α}
    (h : Agrees (Related (Besides k) fun _ _ => True) x y) :
    Agrees (Related (Besides k) fun (p : σ × Record) (q : τ × Record) => p.2 = q.2) (recording f x)
      (recording f y) := by
  have hkeep : Agrees (Related (Besides k) fun (p : σ × Record) (q : τ × Record) => p.2 = q.2)
      (Act.modifyOwn fun p => (p.1, f p.2)) (Act.modifyOwn fun p => (p.1, f p.2)) :=
    fun _ _ h => ⟨rfl, h.world, congrArg f h.own⟩
  exact hkeep.bind fun _ => h.beside

/-- A watched run that shows its rows goes as one that only reads them, without any settings. -/
theorem run_plain (session : Session) (db : Connection) (text : Engine.Error → String)
    (sql : String) :
    Agrees (Related (Besides session.output) fun (p : List Int × Record) (q : Unit × Record) => p.2 = q.2)
      (run session db (watchRows (showRow session))
        (some (watchErrors text (report text))) sql)
      (run session.plain db (watchRows fun _ => pure false)
        (some (watchErrors text (report text))) sql) :=
  alike_besides.run
    (runStatement_beside fun _ hrow => recording_beside _ (showRow_beside hrow))
    (fun _ => recording_beside _ (write_besides _ _)) sql

/-- A run that shows its rows, the same run watched, and a watched run without any settings: all end
alike, the latter two with the same record, and in worlds that differ in what is shown. The output still takes
text then. -/
theorem run_shown (session : Session) (db : Connection) (text : Engine.Error → String) (sql : String)
    {w : World} (hopen : w.Accepts session.output) (hfull : w.script.IsFull) :
    let shown := run session db (showRow session) (some (report text)) sql ⟨w, []⟩
    let watched := run session db (watchRows (showRow session)) (some (watchErrors text (report text)))
      sql ⟨w, ([], {})⟩
    let plain := run session.plain db (watchRows fun _ => pure false)
      (some (watchErrors text (report text))) sql ⟨w, ((), {})⟩
    watched.1 = shown.1 ∧ watched.2.world = shown.2.world ∧ plain.1 = shown.1 ∧
      watched.2.own.2 = plain.2.own.2 ∧ SameBut session.output shown.2.world plain.2.world ∧
      shown.2.world.Accepts session.output := by
  intro shown watched plain
  obtain ⟨hend, hsame⟩ := run_watched session db (showRow session) text (report text) sql
    ⟨w, ([], {})⟩ ⟨w, []⟩ ⟨rfl, rfl⟩
  obtain ⟨hend', hbeside⟩ := run_plain session db text sql ⟨w, ([], {})⟩ ⟨w, ((), {})⟩
    ⟨⟨.refl _ _, hopen, hfull⟩, rfl⟩
  have hworld := hsame.world
  exact ⟨hend, hworld, hend'.symm.trans hend, hbeside.own, hworld ▸ hbeside.world.toSameBut,
    hworld ▸ hbeside.world.accepts⟩

end Execute
end SqlConsole

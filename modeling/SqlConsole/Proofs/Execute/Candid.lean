import SqlConsole.Execute.Run
import SqlConsole.Layout.Columns
import SqlConsole.Proofs.World.Candid

/-! An interrupt of the engine is what a text comes to that it was given, and what SQL comes to that is run
statement by statement. -/
namespace SqlConsole

open Act (Candid CandidTo)

variable {I : Option String → Prop}

theorem Layout.candid_writeRow (session : Session) (row : Row) : Candid I (writeRow session row) := by
  refine .bind .own fun widths => ?_
  split
  · exact .fail _
  · exact .bind (.modifyOwn _) fun _ => .write _ _

namespace Execute
open Engine (Answer)

variable {σ α β : Type} {session : Session} {db : Connection} {a b : Answer}

theorem candid_tell (session : Session) (notice : Int × String) :
    Candid I (tell session notice : Act σ Unit) := by
  unfold tell
  cases session.log with
  | none => exact .pure ()
  | some k => exact .bind (.write k _) fun _ => .flush k

theorem candid_tellAll (session : Session) (logging : Bool) (h : a.Barring b) :
    CandidTo I (tellAll session logging a : Act σ Unit) (tellAll session logging b) := by
  unfold tellAll
  rw [h.notices_eq]
  split
  · exact .forM (fun notice => candid_tell session notice) _
  · exact .pure ()

theorem candid_permit (h : a.Barring b) : CandidTo I (permit a : Act σ Unit) (permit b) := by
  unfold permit
  rw [h.rows_eq]
  split
  · exact .raise h.fault
  · exact .pure ()

theorem candid_trace (session : Session) (db : Connection) (sql : String) :
    Candid I (trace session db sql : Act σ Unit) := by
  unfold trace
  split
  · exact .write _ _
  · exact .pure ()

/-- The answers are the same barring interrupts. -/
theorem candid_consult {f g : Answer → Act σ β} (session : Session) (sql : String)
    (hfg : ∀ a b, a.Barring b → CandidTo I (f a) (g b)) :
    CandidTo I (consult session sql >>= f) (consult session sql >>= g) := by
  simp only [consult, bind_assoc, pure_bind]
  refine .scripted fun w script h => ?_
  obtain ⟨hanswer, -⟩ := h.answer sql
  refine .bind (.modifyWorld (fun _ h => h) fun _ _ h => ⟨rfl, (h.answer sql).2⟩) fun _ => ?_
  refine .bind (candid_tellAll session w.logging hanswer) fun _ => ?_
  exact .bind (candid_permit hanswer) fun _ => hfg _ _ hanswer

theorem candid_submit {f g : Answer → Act σ β} (session : Session) (db : Connection) (sql : String)
    (bindings : List Sql.Value) (hfg : ∀ a b, a.Barring b → CandidTo I (f a) (g b)) :
    CandidTo I (submit session db sql bindings >>= f) (submit session db sql bindings >>= g) := by
  simp only [submit, bind_assoc, pure_bind]
  refine .bind (.event _) fun _ => candid_consult session sql fun a b h => ?_
  exact .bind (.note _) fun _ => .bind (candid_trace session db sql) fun _ => hfg a b h

theorem candid_count (c : Engine.Counters) : Candid I (count c : Act σ Unit) :=
  .change (fun _ _ => rfl) fun _ => rfl

theorem candid_finish (h : a.Barring b) : CandidTo I (finish a : Act σ Unit) (finish b) := by
  unfold finish
  rw [h.counters_eq]
  exact .bind (candid_count _) fun _ => .raise h.fault

theorem candid_perform (session : Session) (db : Connection) (sql : String)
    (bindings : List Sql.Value) : Candid I (perform session db sql bindings : Act σ Unit) := by
  refine candid_submit session db sql bindings fun a b h => ?_
  rw [h.rows_eq]
  split
  · exact candid_finish h
  · exact .pure ()

theorem candid_takeRows {each : Nat → List Sql.Value → Act σ Bool}
    (heach : ∀ index values, Candid I (each index values)) (index : Nat) (rows : List (List Sql.Value)) :
    Candid I (takeRows each index rows) := by
  induction rows generalizing index with
  | nil => exact .pure true
  | cons values rows ih =>
    refine .bind (heach index values) fun stop => ?_
    cases stop with
    | true => exact .pure false
    | false => exact ih (index + 1)

theorem candid_query {each : List String → Nat → List Sql.Value → Act σ Bool}
    (heach : ∀ columns index values, Candid I (each columns index values)) (session : Session)
    (db : Connection) (sql : String) (bindings : List Sql.Value) :
    Candid I (query session db sql bindings each) := by
  refine candid_submit session db sql bindings fun a b h => ?_
  rw [h.columns_eq, h.rows_eq]
  refine .bind (candid_takeRows (heach a.columns) 0 _) fun all => ?_
  cases all with
  | true => exact candid_finish h
  | false =>
    simp only [Bool.false_eq_true, if_false, abandon]
    rw [h.counters_eq]
    exact .bind (.event _) fun _ => candid_count _

theorem candid_catalog {each : Layout.Row → Act σ Bool} (heach : ∀ row, Candid I (each row))
    (session : Session) (db : Connection) (sql : String) (bindings : List Sql.Value) :
    Candid I (catalog session db sql bindings each) :=
  candid_query (fun _ _ _ => heach _) session db sql bindings

theorem candid_gather (session : Session) (db : Connection) (sql : String) (bindings : List Sql.Value)
    (pick : List Sql.Value → Except RowFault α) :
    Candid I (gather session db sql bindings pick : Act σ (List α)) := by
  refine .within (.bind (candid_query ?_ ..) fun _ => .bind .own fun _ => .pure _)
  intro _ _ values
  split
  · exact .bind (.modifyOwn _) fun _ => .pure false
  · exact .fail _

theorem candid_require (x : Except RowFault α) : Candid I (require x : Act σ α) := by
  cases x with
  | ok a => exact .pure a
  | error f => exact .fail _

theorem candid_columnCount (session : Session) (sql : String) (bindings : List Sql.Value) :
    Candid I (columnCount session sql bindings : Act σ Nat) := by
  refine .bind (.event _) fun _ => candid_consult session sql fun a b h => ?_
  rw [h.columns_eq]
  exact .pure _

theorem candid_writeStatistics (session : Session) (connected : Bool)
    (counters? : Option Engine.Counters) :
    Candid I (writeStatistics session connected counters? : Act σ Unit) := by
  refine .scripted fun w script h => ?_
  dsimp only
  rw [statisticLines, statisticLines, h.memory, h.cache]
  exact .forM (fun _ => .write _ _) _

theorem candid_counted {x : Act σ Unit} (hx : Candid I x) : Candid I (counted x) := by
  refine .bind (.change (fun _ _ => rfl) fun _ => rfl) fun _ => .attempt hx (fun ending => ?_) fun s => rfl
  refine .world (fun _ _ => rfl) fun w => .bind (.change (fun _ _ => rfl) fun _ => rfl) fun _ => ?_
  cases ending with
  | ok _ => exact .pure _
  | error e => exact .fail e

section Run
variable {each : Layout.Row → Act σ Bool} {report : Engine.Error → Act σ Unit}

/-- Whatever statement there is meanwhile. -/
theorem candid_setStatement (t : Option String) :
    Candid (fun _ => True) (setStatement t : Act σ Unit) :=
  .modifyWorld (fun _ _ => trivial) fun _ _ h => ⟨rfl, h⟩

theorem candid_runStatement (heach : ∀ row, Candid (fun _ => True) (each row)) (session : Session)
    (db : Connection) (statement : List Char) :
    Candid (fun _ => True) (runStatement session db each statement) := by
  have hdeliver : Candid (fun _ => True) (deliver session db each statement) :=
    candid_query (fun _ _ _ => heach _) ..
  refine .bind (.bind (candid_setStatement _) fun _ => ?_) fun _ => ?_
  · split
    · exact .write _ _
    · exact .pure ()
  · split
    · exact .bind (candid_counted hdeliver) fun _ => candid_writeStatistics ..
    · exact hdeliver

/-- No statement is being run afterwards. -/
theorem candid_turn (heach : ∀ row, Candid (fun _ => True) (each row))
    (hreport : ∀ e, Candid (fun _ => True) (report e)) (session : Session) (db : Connection)
    (statement : List Char) :
    Candid (· = none) (turn session db each (some report) statement) where
  retains _ _ := rfl
  admits {s t} h := by
    have hturn : Candid (fun _ => True) (turn session db each (some report) statement) := by
      refine .ensuring (.attempt (candid_runStatement heach session db statement) (fun ending => ?_)
        fun s => rfl) (candid_setStatement none) fun s => rfl
      cases ending with
      | ok _ => exact .pure false
      | error f =>
        cases f with
        | engine e => exact .bind (hreport e) fun _ => .pure true
        | _ => exact .fail _
    exact hturn.admits h

theorem candid_runAll (heach : ∀ row, Candid (fun _ => True) (each row))
    (hreport : ∀ e, Candid (fun _ => True) (report e)) (session : Session) (db : Connection)
    (statements : List (List Char)) :
    Candid (· = none) (runAll session db each (some report) statements) := by
  induction statements with
  | nil => exact .pure 0
  | cons statement statements ih =>
    refine .bind (candid_turn heach hreport session db statement) fun refused => ?_
    cases refused with
    | true => exact .pure 1
    | false => exact ih

theorem candid_run (heach : ∀ row, Candid (fun _ => True) (each row))
    (hreport : ∀ e, Candid (fun _ => True) (report e)) (session : Session) (db : Connection)
    (sql : String) : Candid (· = none) (run session db each (some report) sql) := by
  refine .bind (candid_runAll heach hreport session db _) fun failed => ?_
  split
  · exact .bind (.fail _) fun _ => .pure failed
  · exact .bind (.pure ()) fun _ => .pure failed

end Run
end Execute
end SqlConsole

import SqlConsole.Layout.Columns
import SqlConsole.Proofs.Execute.Agree
import SqlConsole.Proofs.World.Oblivious

/-! What the engine is given and what is made of its answers does not go by what was done before. -/
namespace SqlConsole

open Act (Oblivious)

theorem Layout.oblivious_writeRow (session : Session) (row : Row) :
    Oblivious (writeRow session row) := by
  refine .bind .own fun widths => ?_
  split
  · exact .fail _
  · exact .bind (.modifyOwn _) fun _ => .write _ _

namespace Execute
open Scene (Twins)

variable {σ : Type} {session : Session} {db : Connection}

/-- Scenes that differ in their pasts alone are alike to the engine. -/
theorem alike_twins {T : List Deed → List Deed → Prop} (hT : Lasting T) :
    Alike (fun _ => True) (Twins T : Scene σ → Scene σ → Prop) where
  script h := by
    cases h
    rfl
  logging h := by
    cases h
    rfl
  yields _ _ _ _ _ := trivial
  answered h _ := by
    obtain ⟨past, h⟩ := h
    exact .mk past h
  noted h d := by
    obtain ⟨past, h⟩ := h
    exact .mk (d :: past) (hT d _ _ h)
  tallied h _ := by
    obtain ⟨past, h⟩ := h
    exact .mk past h
  running h _ := by
    obtain ⟨past, h⟩ := h
    exact .mk past h
  write k text := (Oblivious.write k text).agrees hT
  flush k := (Oblivious.flush k).agrees hT

theorem oblivious_consult (session : Session) (sql : String) :
    Oblivious (consult session sql : Act σ Engine.Answer) := by
  refine ⟨fun hT => ?_⟩
  have hsinks : SameSinks session session := ⟨rfl, rfl⟩
  have hall := (alike_twins (σ := σ) hT).consult hsinks sql fun a _ => .pure a
  rwa [bind_pure] at hall

theorem oblivious_submit (session : Session) (db : Connection) (sql : String)
    (bindings : List Sql.Value) : Oblivious (submit session db sql bindings : Act σ Engine.Answer) := by
  refine ⟨fun {T} hT => ?_⟩
  have hsinks : SameSinks session session := ⟨rfl, rfl⟩
  have hall : Act.Agrees (Scene.Twins T : Scene σ → Scene σ → Prop)
      (submit session db sql bindings >>= pure) (submit session db sql bindings >>= pure) :=
    (alike_twins hT).submit hsinks sql bindings fun a _ => .pure a
  rwa [bind_pure] at hall

theorem oblivious_count (c : Engine.Counters) : Oblivious (count c : Act σ Unit) :=
  .modifyWorld fun _ _ => rfl

theorem oblivious_finish (a : Engine.Answer) : Oblivious (finish a : Act σ Unit) :=
  .bind (oblivious_count _) fun _ => .raise _

theorem oblivious_perform (session : Session) (db : Connection) (sql : String)
    (bindings : List Sql.Value) : Oblivious (perform session db sql bindings : Act σ Unit) := by
  refine .bind (oblivious_submit ..) fun a => ?_
  split
  · exact oblivious_finish a
  · exact .pure ()

theorem oblivious_query {each : List String → Nat → List Sql.Value → Act σ Bool}
    (heach : ∀ columns index values, Oblivious (each columns index values)) (session : Session)
    (db : Connection) (sql : String) (bindings : List Sql.Value) :
    Oblivious (query session db sql bindings each) := by
  refine .bind (oblivious_submit ..) fun a => .bind ?_ fun all => ?_
  · refine ⟨fun hT => Alike.takeRows ?_ 0⟩
    intro values _ index
    exact (heach _ index values).agrees hT
  · split
    · exact oblivious_finish a
    · exact .bind (.event _) fun _ => oblivious_count _

theorem oblivious_catalog {each : Layout.Row → Act σ Bool} (heach : ∀ row, Oblivious (each row))
    (session : Session) (db : Connection) (sql : String) (bindings : List Sql.Value) :
    Oblivious (catalog session db sql bindings each) :=
  oblivious_query (fun _ _ _ => heach _) session db sql bindings

theorem oblivious_gather {α : Type} (session : Session) (db : Connection) (sql : String)
    (bindings : List Sql.Value) (pick : List Sql.Value → Except RowFault α) :
    Oblivious (gather session db sql bindings pick : Act σ (List α)) := by
  refine .within (.bind (oblivious_query ?_ ..) fun _ => .bind .own fun _ => .pure _)
  intro _ _ values
  split
  · exact .bind (.modifyOwn _) fun _ => .pure false
  · exact .fail _

theorem oblivious_require {α : Type} (x : Except RowFault α) : Oblivious (require x : Act σ α) := by
  cases x with
  | ok a => exact .pure a
  | error f => exact .fail _

theorem oblivious_columnCount (session : Session) (sql : String) (bindings : List Sql.Value) :
    Oblivious (columnCount session sql bindings : Act σ Nat) :=
  .bind (.event _) fun _ => .bind (oblivious_consult ..) fun _ => .pure _

theorem oblivious_writeStatistics (session : Session) (connected : Bool)
    (counters? : Option Engine.Counters) :
    Oblivious (writeStatistics session connected counters? : Act σ Unit) := by
  exact .world (fun _ _ => rfl) fun w => .forM (fun _ => .write _ _) _

theorem oblivious_counted {x : Act σ Unit} (hx : Oblivious x) : Oblivious (counted x) := by
  refine .bind (.modifyWorld fun _ _ => rfl) fun _ => .bind hx.attempt fun ending => ?_
  refine .world (fun _ _ => rfl) fun w => .bind (.modifyWorld fun _ _ => rfl) fun _ => ?_
  cases ending with
  | ok _ => exact .pure _
  | error e => exact .fail e

theorem oblivious_setStatement (t : Option String) : Oblivious (setStatement t : Act σ Unit) :=
  .modifyWorld fun _ _ => rfl

section Run
variable {each : Layout.Row → Act σ Bool} {report : Engine.Error → Act σ Unit}

theorem oblivious_runStatement (heach : ∀ row, Oblivious (each row)) (session : Session)
    (db : Connection) (statement : List Char) :
    Oblivious (runStatement session db each statement) := by
  have hdeliver : Oblivious (deliver session db each statement) :=
    oblivious_query (fun _ _ _ => heach _) ..
  refine .bind (.bind (oblivious_setStatement _) fun _ => ?_) fun _ => ?_
  · split
    · exact .write _ _
    · exact .pure ()
  · split
    · exact .bind (oblivious_counted hdeliver) fun _ => oblivious_writeStatistics ..
    · exact hdeliver

theorem oblivious_turn (heach : ∀ row, Oblivious (each row)) (hreport : ∀ e, Oblivious (report e))
    (session : Session) (db : Connection) (statement : List Char) :
    Oblivious (turn session db each (some report) statement) :=
  ⟨fun hT => (alike_twins hT).turn
    (fun p => (oblivious_runStatement heach session db p).agrees hT)
    (fun e => (hreport e).agrees hT) statement⟩

theorem oblivious_runAll (heach : ∀ row, Oblivious (each row)) (hreport : ∀ e, Oblivious (report e))
    (session : Session) (db : Connection) (statements : List (List Char)) :
    Oblivious (runAll session db each (some report) statements) :=
  ⟨fun hT => (alike_twins hT).runAll
    (fun p => (oblivious_runStatement heach session db p).agrees hT)
    (fun e => (hreport e).agrees hT) statements⟩

/-- Runs of one text agree after pasts that `T` relates, if the reports of errors keep them related. -/
theorem agrees_run {T : List Deed → List Deed → Prop} (hT : Lasting T)
    (heach : ∀ row, Oblivious (each row)) {report' : Engine.Error → Act σ Unit}
    (hreport : ∀ e, Act.Agrees (Twins T) (report e) (report' e)) (session : Session) (db : Connection)
    (sql : String) :
    Act.Agrees (Twins T) (run session db each (some report) sql)
      (run session db each (some report') sql) :=
  (alike_twins hT).run (fun p => (oblivious_runStatement heach session db p).agrees hT) hreport sql

end Run
end Execute
end SqlConsole

import SqlConsole.Layout.Columns
import SqlConsole.Proofs.Execute.Agree
import SqlConsole.Proofs.World.Steady

/-! SQL text that is run over two connections, of which one may be traced and the other one not, in worlds
that differ in their pasts at most. -/
namespace SqlConsole
open Act (Agrees Respects)
open Scene (Related)
open World (Steady)

variable {K : Option Nat → Prop} {W : World → World → Prop}

theorem Layout.respects_writeRow (hW : Steady K W) {session : Session} (houtput : K session.output.id?)
    (row : Row) : Respects (Related W Eq) (writeRow session row) := by
  refine .own_same fun widths => ?_
  split
  · exact .fail _
  · exact .bind (.modifyOwn_same _) fun _ => hW.write houtput _

namespace Execute

/-- What the session writes goes to sinks of the one kind, but for what is traced: that may differ as the
connections do. -/
structure Paired (K : Option Nat → Prop) (W : World → World → Prop) (session : Session)
    (db db' : Connection) : Prop where
  steady : Steady K W
  output : K session.output.id?
  log : ∀ k ∈ session.log, K k.id?
  began {σ : Type} {O : σ → σ → Prop} (sql : String) : Agrees (Related W O)
    (do Act.note (.began sql); trace session db sql) (do Act.note (.began sql); trace session db' sql)

namespace Paired
variable {session : Session} {db db' : Connection} (h : Paired K W session db db')
include h

section Engine
variable {σ : Type} {O : σ → σ → Prop}

theorem write (text : List Char) : Respects (Related W O) (Act.write session.output text) :=
  h.steady.write h.output text

theorem consult (sql : String) : Respects (Related W O) (consult session sql) := by
  have htell (notice : Int × String) : Respects (Related W O) (tell session notice) := by
    unfold tell
    cases hlog : session.log with
    | none => exact .pure ()
    | some k =>
      have hk := h.log k hlog
      exact .bind (h.steady.write hk _) fun _ => h.steady.flush hk
  refine h.steady.world (fun _ _ => rfl) fun w =>
    .bind (h.steady.modifyWorld (fun _ _ => rfl) fun _ => .of_handles rfl rfl rfl) fun _ =>
      .bind ?_ fun _ => .bind (Alike.permit _) fun _ => .pure _
  unfold tellAll
  split
  · exact .forM fun notice _ => htell notice
  · exact .pure ()

theorem submit (sql : String) (bindings : List Sql.Value) :
    Agrees (Related W O) (submit session db sql bindings) (submit session db' sql bindings) := by
  refine .bind (h.steady.event _) fun _ => .bind (h.consult sql) fun a => ?_
  have hbegan := (h.began (O := O) sql).bind fun _ => Agrees.pure a
  rwa [bind_assoc, bind_assoc] at hbegan

theorem count (c : Engine.Counters) : Respects (Related W O) (count c) :=
  h.steady.modifyWorld (fun _ _ => rfl) fun _ => .of_handles rfl rfl rfl

theorem finish (a : Engine.Answer) : Respects (Related W O) (finish a) :=
  .bind (h.count _) fun _ => .raise _

theorem perform (sql : String) (bindings : List Sql.Value) :
    Agrees (Related W O) (perform session db sql bindings) (perform session db' sql bindings) := by
  refine .bind (h.submit sql bindings) fun a => ?_
  split
  · exact h.finish a
  · exact .pure ()

theorem query {each each' : List String → Nat → List Sql.Value → Act σ Bool}
    (heach : ∀ columns index values,
      Agrees (Related W O) (each columns index values) (each' columns index values))
    (sql : String) (bindings : List Sql.Value) :
    Agrees (Related W O) (query session db sql bindings each) (query session db' sql bindings each') := by
  refine .bind (h.submit sql bindings) fun a => .bind (Alike.takeRows (fun _ _ _ => heach _ _ _) 0)
    fun all => ?_
  split
  · exact h.finish a
  · exact .bind (h.steady.event _) fun _ => h.count _

omit h in
theorem require {α : Type} (x : Except RowFault α) : Respects (Related W O) (require x) := by
  cases x with
  | ok a => exact .pure a
  | error f => exact .fail _

theorem columnCount (sql : String) (bindings : List Sql.Value) :
    Respects (Related W O) (columnCount session sql bindings) :=
  .bind (h.steady.event _) fun _ => .bind (h.consult sql) fun _ => .pure _

theorem gather {α : Type} (sql : String) (bindings : List Sql.Value)
    (pick : List Sql.Value → Except RowFault α) :
    Agrees (Related W O) (gather session db sql bindings pick) (gather session db' sql bindings pick) := by
  refine .within_same (.bind (h.query ?_ sql bindings) fun _ => .own_same fun _ => .pure _)
  intro _ _ values
  split
  · exact .bind (.modifyOwn_same _) fun _ => .pure false
  · exact .fail _

theorem writeStatistics (connected : Bool) (counters? : Option Engine.Counters) :
    Respects (Related W O) (writeStatistics session connected counters?) :=
  h.steady.world (fun _ _ => rfl) fun _ => .forM fun _ _ => h.write _

theorem counted {x y : Act σ Unit} (hxy : Agrees (Related W O) x y) :
    Agrees (Related W O) (counted x) (counted y) := by
  have hset (c? : Option Engine.Counters) :
      Respects (Related W O) (Act.modifyWorld fun w => { w with counting := c? }) :=
    h.steady.modifyWorld (fun _ _ => rfl) fun _ => .of_handles rfl rfl rfl
  refine .bind (hset _) fun _ => .bind (.attempt hxy) fun ending =>
    h.steady.world (fun _ _ => rfl) fun w => .bind (hset _) fun _ => ?_
  cases ending with
  | ok _ => exact .pure _
  | error e => exact .fail e

end Engine

section Run
variable {each : Layout.Row → Act (List Int) Bool} {report : Engine.Error → Act (List Int) Unit}
  (hstatement : ∀ w w' t, W w w' → W { w with statement := t } { w' with statement := t })

theorem catalog (heach : ∀ row, Respects (Related W Eq) (each row)) (sql : String)
    (bindings : List Sql.Value) : Agrees (Related W Eq) (catalog session db sql bindings each)
      (catalog session db' sql bindings each) := h.query (fun _ _ _ => heach _) sql bindings

include hstatement

omit h in
theorem setStatement (t : Option String) :
    Respects (Related W Eq) (setStatement t : Act (List Int) Unit) :=
  .modifyWorld fun _ _ hst => ⟨hstatement _ _ t hst.world, hst.own⟩

theorem runStatement (heach : ∀ row, Respects (Related W Eq) (each row)) (statement : List Char) :
    Agrees (Related W Eq) (runStatement session db each statement)
      (runStatement session db' each statement) := by
  have hdeliver : Agrees (Related W Eq) (deliver session db each statement)
      (deliver session db' each statement) := h.query (fun _ _ _ => heach _) _ _
  refine .bind (.bind (setStatement hstatement _) fun _ => ?_) fun _ => ?_
  · split
    · exact h.write _
    · exact .pure ()
  · split
    · exact .bind (h.counted hdeliver) fun _ => h.writeStatistics _ _
    · exact hdeliver

theorem turn (heach : ∀ row, Respects (Related W Eq) (each row))
    (hreport : ∀ e, Respects (Related W Eq) (report e)) (statement : List Char) :
    Agrees (Related W Eq) (turn session db each (some report) statement)
      (turn session db' each (some report) statement) := by
  refine .ensuring (.bind (.attempt (h.runStatement hstatement heach statement)) fun ending => ?_)
    (setStatement hstatement none)
  rcases ending with f | _
  · cases f with
    | engine e => exact .bind (hreport e) fun _ => .pure true
    | _ => exact .fail _
  · exact .pure false

theorem run (heach : ∀ row, Respects (Related W Eq) (each row))
    (hreport : ∀ e, Respects (Related W Eq) (report e)) (sql : String) :
    Agrees (Related W Eq) (run session db each (some report) sql)
      (run session db' each (some report) sql) := by
  have hall (statements : List (List Char)) :
      Agrees (Related W Eq) (runAll session db each (some report) statements)
        (runAll session db' each (some report) statements) := by
    induction statements with
    | nil => exact .pure 0
    | cons q qs ih =>
      refine .bind (h.turn hstatement heach hreport q) fun refused => ?_
      split
      · exact .pure 1
      · exact ih
  refine .bind (hall _) fun failed => ?_
  split
  · exact .bind (.fail _) fun _ => .pure failed
  · exact .bind (.pure ()) fun _ => .pure failed

end Run
end Paired
end Execute
end SqlConsole

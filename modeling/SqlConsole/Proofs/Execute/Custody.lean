import SqlConsole.Execute.Run
import SqlConsole.Proofs.Layout.Columns
import SqlConsole.Proofs.World.Custody

/-! SQL run in a session whose sinks are held: nothing is opened or closed, and it fails in no other way
than the engine, the sinks and the readers of rows do. -/
namespace SqlConsole

/-- All the sinks that text of the session goes to. -/
def Session.sinks (s : Session) : List Sink := s.output :: (s.trace.toList ++ s.log.toList)

/-- What running SQL relies on. The sinks of the session are held, and the console's database is open. The
failures that may come of anything are allowed. -/
structure Origin.Serves (o : Origin) (held : List Sink) (links : Links) (session : Session)
    (F : Failure → Prop) : Prop where
  sinks : ∀ k ∈ session.sinks, k.isStream ∨ k ∈ held
  main : links.main.isSome
  expected : ∀ f, o.Expects f → F f

/-- The script that the origin started from may give the answer. -/
structure Origin.Allows (o : Origin) (a : Engine.Answer) : Prop where
  fault : ∀ f, a.fault = some f → f ∈ o.script.faults
  full : o.script.IsFull → a.IsFull

/-- A row that the engine may give: it lacks no value, if no row of the script does. -/
def Origin.AllowsRow (o : Origin) (columns : List String) (values : List Sql.Value) : Prop :=
  o.script.IsFull → columns.length ≤ values.length

namespace Execute
open Act (Ensures Safe)

variable {σ : Type} {o : Origin} {held : List Sink} {links : Links} {O : σ → Prop}
  {session : Session} {F : Failure → Prop}

theorem safe_count (c : Engine.Counters) : Safe (o.At held links O) F (count c) :=
  Origin.safe_modifyWorld (fun _ => rfl) (fun _ => rfl) (fun _ => rfl) fun _ => rfl

section Served
variable (h : o.Serves held links session F)
include h

theorem safe_tell (notice : Int × String) : Safe (o.At held links O) F (tell session notice) := by
  unfold tell
  cases hlog : session.log with
  | none => exact .pure ()
  | some k =>
    have hk := h.sinks k (by simp [Session.sinks, hlog])
    exact .bind (Origin.safe_write h.expected hk _) fun _ => Origin.safe_flush h.expected hk

theorem safe_tellAll (logging : Bool) (a : Engine.Answer) :
    Safe (o.At held links O) F (tellAll session logging a) := by
  unfold tellAll
  split
  · exact .forM (safe_tell h) _
  · exact .pure ()

theorem safe_permit {a : Engine.Answer} (ha : o.Allows a) : Safe (o.At held links O) F (permit a) := by
  unfold permit
  split
  · exact .raise _ fun f hf => h.expected _ (Origin.expects_ofFault (ha.fault f hf))
  · exact .pure ()

theorem ensures_consult (sql : String) :
    Ensures (o.At held links O) (consult session sql) (fun a s => o.Allows a ∧ o.At held links O s)
      (fun e s => o.At held links O s ∧ F e) := by
  refine .inWorld fun w => ?_
  rintro s ⟨rfl, hown, hs⟩
  have ha : o.Allows (s.world.script.answer sql).1 :=
    { fault := fun f hf => hs.script.faults (s.world.script.mem_faults_answer sql hf)
      full := fun hfull => (hs.fullRows hfull).answer sql }
  have hrest : Ensures (o.At held links O)
      (do
        tellAll session s.world.logging (s.world.script.answer sql).1
        permit (s.world.script.answer sql).1
        pure (s.world.script.answer sql).1)
      (fun a s => o.Allows a ∧ o.At held links O s) (fun e s => o.At held links O s ∧ F e) :=
    .bind (safe_tellAll h _ _) fun _ => .bind (safe_permit h ha) fun _ => .pure fun _ hs => ⟨ha, hs⟩
  exact hrest _ ⟨hown, hs.answered sql⟩

theorem safe_trace (db : Connection) (sql : String) :
    Safe (o.At held links O) F (trace session db sql) := by
  unfold trace
  split
  · rename_i k _ htrace
    exact Origin.safe_write h.expected (h.sinks k (by simp [Session.sinks, htrace])) _
  · exact .pure ()

theorem ensures_submit (db : Connection) (sql : String) (bindings : List Sql.Value) :
    Ensures (o.At held links O) (submit session db sql bindings)
      (fun a s => o.Allows a ∧ o.At held links O s) (fun e s => o.At held links O s ∧ F e) := by
  refine .bind (Origin.safe_event (if_pos h.main)) fun _ => .bind (ensures_consult h sql) fun a => ?_
  refine .assume fun ha => .bind (Origin.safe_began sql) fun _ => .bind (safe_trace h db sql) fun _ => ?_
  exact .pure fun _ hs => ⟨ha, hs⟩

theorem safe_finish {a : Engine.Answer} (ha : o.Allows a) : Safe (o.At held links O) F (finish a) :=
  .bind (safe_count _) fun _ => .raise _ fun f hf => h.expected _ (Origin.expects_ofFault (ha.fault f hf))

theorem safe_perform (db : Connection) (sql : String) (bindings : List Sql.Value) :
    Safe (o.At held links O) F (perform session db sql bindings) := by
  refine .given (ensures_submit h db sql bindings) fun a ha => ?_
  split
  · exact safe_finish h ha
  · exact .pure ()

theorem safe_columnCount (sql : String) (bindings : List Sql.Value) :
    Safe (o.At held links O) F (columnCount session sql bindings) :=
  .bind (Origin.safe_event (if_pos h.main)) fun _ =>
    .given (ensures_consult h sql) fun _ _ => .pure _

theorem safe_abandon (a : Engine.Answer) : Safe (o.At held links O) F (abandon a) :=
  .bind (Origin.safe_event (if_pos h.main)) fun _ => safe_count _

end Served

theorem safe_takeRows {I : Scene σ → Prop} {each : Nat → List Sql.Value → Act σ Bool}
    (rows : List (List Sql.Value)) (index : Nat)
    (heach : ∀ i, ∀ values ∈ rows, Safe I F (each i values)) : Safe I F (takeRows each index rows) := by
  induction rows generalizing index with
  | nil => exact .pure true
  | cons values rest ih =>
    refine .bind (heach index values List.mem_cons_self) fun stops => ?_
    cases stops with
    | true => exact .pure false
    | false => exact ih (index + 1) fun i values hv => heach i values (List.mem_cons_of_mem _ hv)

section Served
variable (h : o.Serves held links session F) {db : Connection}
include h

theorem safe_query {each : List String → Nat → List Sql.Value → Act σ Bool}
    (heach : ∀ columns i values, o.AllowsRow columns values →
      Safe (o.At held links O) F (each columns i values)) (sql : String) (bindings : List Sql.Value) :
    Safe (o.At held links O) F (query session db sql bindings each) := by
  refine .given (ensures_submit h db sql bindings) fun a ha => .bind ?_ fun atEnd => ?_
  · exact safe_takeRows _ 0 fun i values hv => heach a.columns i values fun hfull => ha.full hfull values hv
  · split
    · exact safe_finish h ha
    · exact safe_abandon h a

theorem safe_gather {α : Type} {pick : List Sql.Value → Except RowFault α}
    (hpick : ∀ values f, pick values = .error f → F (.catalogRow f)) (sql : String)
    (bindings : List Sql.Value) :
    Safe (o.At held links O) F (gather session db sql bindings pick) := by
  refine Origin.safe_within (.bind (safe_query h (fun columns i values _ => ?_) sql bindings) fun _ =>
    .own fun _ _ => .pure _)
  split
  · exact .bind (.modifyOwn fun _ hs => hs) fun _ => .pure false
  · rename_i f hf
    exact .fail (hpick values f hf)

theorem safe_catalog {each : Layout.Row → Act σ Bool}
    (heach : ∀ row, o.AllowsRow row.columns row.values → Safe (o.At held links O) F (each row))
    (sql : String) (bindings : List Sql.Value) :
    Safe (o.At held links O) F (catalog session db sql bindings each) :=
  safe_query h (fun _ _ _ hrow => heach _ hrow) sql bindings

end Served

theorem safe_require {α : Type} {I : Scene σ → Prop} (r : Except RowFault α)
    (hF : ∀ f, r = .error f → F (.catalogRow f)) : Safe I F (require r : Act σ α) := by
  cases r with
  | ok a => exact .pure a
  | error f => exact .fail (hF f rfl)

/-- A row may fail to become text where a column that needs a value has none. -/
theorem safe_writeRow (hF : ∀ f, o.Expects f → F f)
    (h : session.output.isStream ∨ session.output ∈ held) (row : Layout.Row)
    (hmissing : ∀ kept, Layout.rowText session.settings kept row = none → F .missingValue) :
    Safe (o.At held links fun _ => True) F (Layout.writeRow session row) := by
  refine .own fun s _ => ?_
  split
  · rename_i heq
    exact .fail (hmissing _ heq)
  · exact .bind (.modifyOwn fun _ hs => hs) fun _ => Origin.safe_write hF h _

/-! Statement after statement. -/

section Served
variable (h : o.Serves held links session F) {db : Connection} {each : Layout.Row → Act σ Bool}

theorem safe_counted {x : Act σ Unit} (hx : Safe (o.At held links O) F x) :
    Safe (o.At held links O) F (counted x) := by
  have hset (c : Option Engine.Counters) :
      Safe (o.At held links O) F (Act.modifyWorld fun w => { w with counting := c }) :=
    Origin.safe_modifyWorld (fun _ => rfl) (fun _ => rfl) (fun _ => rfl) fun _ => rfl
  refine .bind (hset _) fun _ => .attempt hx (fun _ => ?_) fun e he => ?_
  · exact .world fun _ _ => .bind (hset none) fun _ => .pure _
  · exact .world fun _ _ => .bind (hset none) fun _ => .fail he

theorem safe_setStatement (t : Option String) : Safe (o.At held links O) F (setStatement t) :=
  Origin.safe_modifyWorld (fun _ => rfl) (fun _ => rfl) (fun _ => rfl) fun _ => rfl

include h

theorem safe_writeOutput (text : List Char) :
    Safe (o.At held links O) F (Act.write session.output text) :=
  Origin.safe_write h.expected (h.sinks _ List.mem_cons_self) text

theorem safe_announce (statement : List Char) :
    Safe (o.At held links O) F (announce session statement) := by
  refine .bind (safe_setStatement _) fun _ => ?_
  split
  · exact safe_writeOutput h _
  · exact .pure ()

theorem safe_writeStatistics (connected : Bool) (counters? : Option Engine.Counters) :
    Safe (o.At held links O) F (writeStatistics session connected counters?) := by
  exact .world fun _ _ => .forM (fun _ => safe_writeOutput h _) _

theorem safe_runStatement
    (heach : ∀ row, o.AllowsRow row.columns row.values → Safe (o.At held links O) F (each row))
    (statement : List Char) :
    Safe (o.At held links O) F (runStatement session db each statement) := by
  have hdeliver : Safe (o.At held links O) F (deliver session db each statement) :=
    safe_query h (fun _ _ _ hrow => heach _ hrow) _ _
  refine .bind (safe_announce h statement) fun _ => ?_
  split
  · exact .bind (safe_counted hdeliver) fun _ => safe_writeStatistics h _ _
  · exact hdeliver

theorem safe_turn
    (heach : ∀ row, o.AllowsRow row.columns row.values → Safe (o.At held links O) F (each row))
    {report : Engine.Error → Act σ Unit} (hreport : ∀ e, Safe (o.At held links O) F (report e))
    (statement : List Char) :
    Safe (o.At held links O) F (turn session db each (some report) statement) := by
  refine .ensuring (.attempt (safe_runStatement h heach statement) (fun _ => .pure false) ?_)
    (safe_setStatement none)
  intro f hf
  cases f with
  | engine e => exact .bind (hreport e) fun _ => .pure true
  | _ => exact .fail hf

/-- Text that the engine can judge is run to the end, or up to the first statement that it refuses. -/
theorem safe_run
    (heach : ∀ row, o.AllowsRow row.columns row.values → Safe (o.At held links O) F (each row))
    {report : Engine.Error → Act σ Unit} (hreport : ∀ e, Safe (o.At held links O) F (report e))
    {sql : String} (hsql : Statement.isSettled sql.toList = false → F .zeroCharacter) :
    Safe (o.At held links O) F (run session db each (some report) sql) := by
  have hall (statements : List (List Char)) :
      Safe (o.At held links O) F (runAll session db each (some report) statements) := by
    induction statements with
    | nil => exact .pure 0
    | cons q qs ih =>
      refine .bind (safe_turn h heach hreport q) fun refused => ?_
      cases refused with
      | true => exact .pure 1
      | false => exact ih
  refine .bind (hall _) fun failed => ?_
  split
  · rename_i hcut
    have hsettled : Statement.isSettled sql.toList = false := by simp_all
    exact .bind (.fail (hsql hsettled)) fun _ => .pure failed
  · exact .bind (.pure ()) fun _ => .pure failed

end Served

end Execute
end SqlConsole

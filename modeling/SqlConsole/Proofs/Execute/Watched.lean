import SqlConsole.Proofs.Execute.Agree

/-! Runs that are watched: the rows that are read and the errors that are reported are kept in a
record. That makes no difference to a run. -/
namespace SqlConsole

/-- The rows that were read, and the text of the errors that were reported. -/
structure Record where
  rows : List Layout.Row := []
  reported : List String := []

namespace Execute
open Act (Agrees)
open Engine (Answer)
open Layout (Row)
open Scene (Related)

variable {σ τ : Type} {session : Session} {db : Connection} {each : Row → Act σ Bool}

/-- Changes the record, and then does an action that knows nothing of it. -/
def recording {α : Type} (f : Record → Record) (x : Act σ α) : Act (σ × Record) α := do
  Act.modifyOwn fun p => (p.1, f p.2)
  x.beside

/-- Keeps each row before it is read. -/
def watchRows (each : Row → Act σ Bool) (row : Row) : Act (σ × Record) Bool :=
  recording (fun r => { r with rows := r.rows ++ [row] }) (each row)

/-- Keeps the text of each error before it is reported. -/
def watchErrors (text : Engine.Error → String) (report : Engine.Error → Act σ Unit)
    (e : Engine.Error) : Act (σ × Record) Unit :=
  recording (fun r => { r with reported := r.reported ++ [text e] }) (report e)

/-- Reports errors by writing their text. -/
def report (text : Engine.Error → String) (e : Engine.Error) : Act σ Unit :=
  Act.write .stderr (text e).toList

theorem alike_same {O : σ → τ → Prop} : Alike (fun _ => True) (Related Eq O) where
  script h := by rw [h.world]
  logging h := by rw [h.world]
  yields _ _ _ _ _ := trivial
  answered h sql := ⟨by rw [Scene.answered, h.world]; rfl, h.own⟩
  noted h d := ⟨by rw [Scene.noted, h.world]; rfl, h.own⟩
  tallied h c := ⟨by rw [Scene.tallied, h.world]; rfl, h.own⟩
  running h statement := ⟨by rw [Scene.running, h.world]; rfl, h.own⟩
  write := .same_write
  flush := .same_flush

variable {O : σ → τ → Prop}

private theorem counted_same {x : Act σ Unit} {y : Act τ Unit} (h : Agrees (Related Eq O) x y) :
    Agrees (Related Eq O) (counted x) (counted y) := by
  refine (Agrees.same_change _).bind fun _ => h.attempt.bind fun ending => .same_world fun w => ?_
  refine (Agrees.same_change _).bind fun _ => ?_
  cases ending with
  | ok _ => exact .pure _
  | error e => exact .fail e

private theorem writeStatistics_same (session : Session) (c : Engine.Counters) :
    Agrees (Related Eq O) (writeStatistics session true (some c)) (writeStatistics session true (some c)) :=
  .same_world fun _ => .forM fun _ _ => .same_write _ _

private theorem runStatement_same {each' : Row → Act τ Bool}
    (heach : ∀ row, Agrees (Related Eq O) (each row) (each' row)) (p : List Char) :
    Agrees (Related Eq O) (runStatement session db each p) (runStatement session db each' p) := by
  have hdeliver : Agrees (Related Eq O) (deliver session db each p) (deliver session db each' p) :=
    alike_same.deliver ⟨rfl, rfl⟩ (fun row _ => heach row) p
  refine .bind (.bind (alike_same.setStatement _) fun _ => ?_) fun _ => ?_
  · split
    · exact .same_write _ _
    · exact .pure ()
  · split
    · exact (counted_same hdeliver).bind fun c => writeStatistics_same session c
    · exact hdeliver

private theorem recording_same {α : Type} (f : Record → Record) (x : Act σ α) :
    Agrees (Related Eq fun (p : σ × Record) o => p.1 = o) (recording f x) x := by
  have hkeep : Agrees (Related Eq fun (p : σ × Record) o => p.1 = o)
      (Act.modifyOwn fun p => (p.1, f p.2)) (pure ()) := fun _ _ h => ⟨rfl, h.world, h.own⟩
  exact hkeep.before (f := fun _ => x.beside) (.beside_left x)

/-- A run that is watched ends as it would, in the world that it would end in. -/
theorem run_watched (session : Session) (db : Connection) (each : Row → Act σ Bool)
    (text : Engine.Error → String) (report : Engine.Error → Act σ Unit) (sql : String) :
    Agrees (Related Eq fun (p : σ × Record) o => p.1 = o)
      (run session db (watchRows each) (some (watchErrors text report)) sql)
      (run session db each (some report) sql) :=
  alike_same.run (runStatement_same fun row => recording_same _ (each row))
    (fun e => recording_same _ (report e)) sql

end Execute
end SqlConsole

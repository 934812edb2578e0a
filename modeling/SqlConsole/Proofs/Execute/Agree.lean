import SqlConsole.Proofs.Execute.Reference
import SqlConsole.Proofs.World.Agree

/-! Two runs of one SQL text, statement by statement: what the engine is asked and what it answers is
the same in both, as long as what they do besides makes no difference to it. -/
namespace SqlConsole

namespace Scene
variable {σ : Type}

/-- The engine has said what it will say to a text. -/
def answered (sql : String) (s : Scene σ) : Scene σ :=
  { s with world := { s.world with script := (s.world.script.answer sql).2 } }

def running (statement : Option String) (s : Scene σ) : Scene σ :=
  { s with world := { s.world with statement } }

end Scene

namespace Execute
open Act (Agrees)
open Engine (Answer)
open Layout (Row)

variable {σ τ : Type}

/-- Each row of an answer is one that `Q` allows. -/
def Yields (Q : Row → Prop) (a : Answer) : Prop :=
  ∀ values ∈ a.rows.getD [], ∀ index : Nat, Q { columns := a.columns, values, typed := true, index }

/-- `R` relates scenes in which the engine will say the same, with rows that `Q` allows, and what is
done to both keeps them related. -/
structure Alike (Q : Row → Prop) (R : Scene σ → Scene τ → Prop) : Prop where
  script {s : Scene σ} {t : Scene τ} (h : R s t) : s.world.script = t.world.script
  logging {s : Scene σ} {t : Scene τ} (h : R s t) : s.world.logging = t.world.logging
  yields {s : Scene σ} {t : Scene τ} (h : R s t) (sql : String) :
    Yields Q (s.world.script.answer sql).1
  answered {s : Scene σ} {t : Scene τ} (h : R s t) (sql : String) : R (s.answered sql) (t.answered sql)
  noted {s : Scene σ} {t : Scene τ} (h : R s t) (d : Deed) : R (s.noted d) (t.noted d)
  tallied {s : Scene σ} {t : Scene τ} (h : R s t) (c : Engine.Counters) : R (s.tallied c) (t.tallied c)
  running {s : Scene σ} {t : Scene τ} (h : R s t) (statement : Option String) :
    R (s.running statement) (t.running statement)
  write (k : Sink) (text : List Char) : Agrees R (Act.write k text) (Act.write k text)
  flush (k : Sink) : Agrees R (Act.flush k) (Act.flush k)

/-- Messages and traces of the sessions go to the same sinks. -/
structure SameSinks (session session' : Session) : Prop where
  log : session.log = session'.log
  trace : session.trace = session'.trace

namespace Alike
variable {Q : Row → Prop} {R : Scene σ → Scene τ → Prop} {session session' : Session} {db : Connection}
  {each : Row → Act σ Bool} {each' : Row → Act τ Bool} {report : Engine.Error → Act σ Unit}
  {report' : Engine.Error → Act τ Unit}

theorem note (hR : Alike Q R) (d : Deed) : Agrees R (Act.note d) (Act.note d) :=
  .modifyWorld fun _ _ h => hR.noted h d

theorem setStatement (hR : Alike Q R) (statement : Option String) :
    Agrees R (setStatement statement) (setStatement statement) :=
  .modifyWorld fun _ _ h => hR.running h statement

theorem count (hR : Alike Q R) (c : Engine.Counters) : Agrees R (count c) (count c) :=
  .modifyWorld fun _ _ h => hR.tallied h c

theorem tellAll (hR : Alike Q R) (hsinks : SameSinks session session') (logging : Bool) (a : Answer) :
    Agrees R (tellAll session logging a) (tellAll session' logging a) := by
  have htell (notice : Int × String) : Agrees R (tell session notice) (tell session' notice) := by
    unfold tell
    rw [hsinks.log]
    cases session'.log with
    | none => exact .pure ()
    | some k => exact (hR.write k _).bind fun _ => hR.flush k
  unfold Execute.tellAll
  split
  · exact .forM fun notice _ => htell notice
  · exact .pure ()

theorem trace (hR : Alike Q R) (hsinks : SameSinks session session') (sql : String) :
    Agrees R (trace session db sql) (trace session' db sql) := by
  unfold Execute.trace
  rw [hsinks.trace]
  split
  · exact hR.write _ _
  · exact .pure ()

theorem permit (a : Answer) : Agrees R (permit a) (permit a) := by
  unfold Execute.permit
  split
  · exact .raise _
  · exact .pure ()

/-- The engine's answer is the same on both sides, and its rows are allowed. -/
theorem consult (hR : Alike Q R) (hsinks : SameSinks session session') (sql : String) {β : Type}
    {f : Answer → Act σ β} {g : Answer → Act τ β} (hfg : ∀ a, Yields Q a → Agrees R (f a) (g a)) :
    Agrees R (consult session sql >>= f) (consult session' sql >>= g) := by
  simp only [Execute.consult, bind_assoc, pure_bind]
  refine .world fun s t h => ?_
  rw [hR.script h, hR.logging h]
  refine .bind (.modifyWorld fun _ _ h => hR.answered h sql) fun _ => ?_
  refine (hR.tellAll hsinks _ _).bind fun _ => (permit _).bind fun _ => hfg _ ?_
  exact hR.script h ▸ hR.yields h sql

theorem submit (hR : Alike Q R) (hsinks : SameSinks session session') (sql : String)
    (bindings : List Sql.Value) {β : Type} {f : Answer → Act σ β} {g : Answer → Act τ β}
    (hfg : ∀ a, Yields Q a → Agrees R (f a) (g a)) :
    Agrees R (submit session db sql bindings >>= f) (submit session' db sql bindings >>= g) := by
  simp only [Execute.submit, bind_assoc, pure_bind]
  refine (hR.note _).bind fun _ => hR.consult hsinks sql fun a ha => ?_
  exact (hR.note _).bind fun _ => (hR.trace hsinks sql).bind fun _ => hfg a ha

theorem takeRows {f : Nat → List Sql.Value → Act σ Bool} {g : Nat → List Sql.Value → Act τ Bool}
    {rows : List (List Sql.Value)}
    (h : ∀ values ∈ rows, ∀ index, Agrees R (f index values) (g index values)) (index : Nat) :
    Agrees R (takeRows f index rows) (takeRows g index rows) := by
  induction rows generalizing index with
  | nil => exact .pure true
  | cons values rows ih =>
    obtain ⟨hvalues, hrows⟩ := List.forall_mem_cons.1 h
    refine (hvalues index).bind fun stop => ?_
    cases stop with
    | true => exact .pure false
    | false => exact ih hrows (index + 1)

/-- Readers that agree on every row get the same rows, up to where they stop or the statement ends. -/
theorem deliver (hR : Alike Q R) (hsinks : SameSinks session session')
    (heach : ∀ row, Q row → Agrees R (each row) (each' row)) (statement : List Char) :
    Agrees R (deliver session db each statement) (deliver session' db each' statement) := by
  refine hR.submit hsinks _ _ fun a ha => .bind (takeRows ?_ 0) fun all => ?_
  · intro values hvalues index
    exact heach _ (ha values hvalues index)
  · cases all with
    | true => exact (hR.count _).bind fun _ => .raise _
    | false => exact (hR.note _).bind fun _ => hR.count _

private theorem settle (hreport : ∀ e, Agrees R (report e) (report' e)) (ending : Except Failure Unit) :
    Agrees R (settle (some report) ending) (settle (some report') ending) := by
  cases ending with
  | ok _ => exact .pure false
  | error f =>
    cases f with
    | engine e => exact (hreport e).bind fun _ => .pure true
    | _ => exact .fail _

theorem turn (hR : Alike Q R)
    (hrun : ∀ p, Agrees R (runStatement session db each p) (runStatement session' db each' p))
    (hreport : ∀ e, Agrees R (report e) (report' e)) (p : List Char) :
    Agrees R (turn session db each (some report) p) (turn session' db each' (some report') p) :=
  .ensuring (.bind (.attempt (hrun p)) (settle hreport)) (hR.setStatement none)

theorem runAll (hR : Alike Q R)
    (hrun : ∀ p, Agrees R (runStatement session db each p) (runStatement session' db each' p))
    (hreport : ∀ e, Agrees R (report e) (report' e)) (ps : List (List Char)) :
    Agrees R (runAll session db each (some report) ps) (runAll session' db each' (some report') ps) := by
  induction ps with
  | nil => exact .pure 0
  | cons p ps ih =>
    refine (hR.turn hrun hreport p).bind fun refused => ?_
    cases refused with
    | true => exact .pure 1
    | false => exact ih

/-- Runs agree if they agree on single statements, and on how an error is reported. -/
theorem run (hR : Alike Q R)
    (hrun : ∀ p, Agrees R (runStatement session db each p) (runStatement session' db each' p))
    (hreport : ∀ e, Agrees R (report e) (report' e)) (sql : String) :
    Agrees R (run session db each (some report) sql) (run session' db each' (some report') sql) := by
  refine (hR.runAll hrun hreport _).bind fun failed => ?_
  split
  · exact .bind (.fail _) fun _ => .pure failed
  · exact .bind (.pure ()) fun _ => .pure failed

end Alike
end Execute
end SqlConsole

import SqlConsole.Execute.Run
import SqlConsole.Proofs.World.Discreet

/-! One statement between the engine and the reader of its rows: which rows the reader gets, and
which end of the statement is seen. -/
namespace SqlConsole

namespace Scene
variable {σ : Type}

def noted (d : Deed) (s : Scene σ) : Scene σ :=
  { s with world := { s.world with past := d :: s.world.past } }

def tallied (c : Engine.Counters) (s : Scene σ) : Scene σ :=
  { s with world := { s.world with counting := s.world.counting.map (·.add c) } }

/-- What the engine will say to a text. -/
def answer (s : Scene σ) (statement : List Char) : Engine.Answer :=
  (s.world.script.answer (String.ofList statement)).1

@[simp] theorem noted_counting (d : Deed) (s : Scene σ) :
    (s.noted d).world.counting = s.world.counting := rfl

@[simp] theorem noted_stance {d : Deed} (hd : d.given? = none) (s : Scene σ) :
    (s.noted d).world.stance = s.world.stance := s.world.stance_note hd

@[simp] theorem tallied_stance (c : Engine.Counters) (s : Scene σ) :
    (s.tallied c).world.stance = s.world.stance := by
  simp [tallied, World.stance, World.given]

end Scene

namespace Execute

open Engine (Answer Fault)
open Layout (Row)

variable {σ : Type}

/-- The rows of an answer, as the reader of a statement gets them. -/
def numbered (a : Answer) : List Row :=
  (a.rows.getD []).zipIdx.map fun (values, i) => { columns := a.columns, values, typed := true, index := i }

/-- The reader gets these rows in this order, and stops at none of them. -/
inductive Takes (each : Row → Act σ Bool) : Scene σ → List Row → Scene σ → Prop where
  | nil (s : Scene σ) : Takes each s [] s
  | cons {s s₁ s₂ : Scene σ} {row : Row} {rows : List Row} (hrow : each row s = (.ok false, s₁))
      (hrows : Takes each s₁ rows s₂) : Takes each s (row :: rows) s₂

/-- The end that a fault makes. -/
def ending : Option Fault → Except Failure Unit
  | none => .ok ()
  | some f => .error (.ofFault f)

/-- How a statement goes that is given to the engine. The engine refuses it at once, or what is traced or
logged does not get into its sink; or the reader gets the rows up to the end, where the statement may fail,
or up to a row at which it stops, whatever would have come after that, or up to a row that it fails at. -/
inductive Delivers (session : Session) (db : Connection) (each : Row → Act σ Bool)
    (statement : List Char) : Scene σ → Except Failure Unit → Scene σ → Prop where
  | refused {s s' : Scene σ} {f : Fault}
      (ha : (s.answer statement).rows = none) (hf : (s.answer statement).fault = some f)
      (hs : submit session db (String.ofList statement) [] s = (.error (.ofFault f), s')) :
      Delivers session db each statement s (.error (.ofFault f)) s'
  | untold {s s' : Scene σ} {f : Failure} (hf : f.IsOfSink)
      (hs : submit session db (String.ofList statement) [] s = (.error f, s')) :
      Delivers session db each statement s (.error f) s'
  | drained {s s₁ s₂ : Scene σ}
      (hs : submit session db (String.ofList statement) [] s = (.ok (s.answer statement), s₁))
      (hrows : Takes each s₁ (numbered (s.answer statement)) s₂) :
      Delivers session db each statement s (ending (s.answer statement).fault)
        (s₂.tallied (s.answer statement).counters)
  | stopped {s s₁ s₂ s₃ : Scene σ} {before after : List Row} {row : Row}
      (hs : submit session db (String.ofList statement) [] s = (.ok (s.answer statement), s₁))
      (ha : numbered (s.answer statement) = before ++ row :: after)
      (hrows : Takes each s₁ before s₂) (hrow : each row s₂ = (.ok true, s₃)) :
      Delivers session db each statement s (.ok ())
        ((s₃.noted (.engine .abandon)).tallied (s.answer statement).counters)
  | broken {s s₁ s₂ s₃ : Scene σ} {before after : List Row} {row : Row} {e : Failure}
      (hs : submit session db (String.ofList statement) [] s = (.ok (s.answer statement), s₁))
      (ha : numbered (s.answer statement) = before ++ row :: after)
      (hrows : Takes each s₁ before s₂) (hrow : each row s₂ = (.error e, s₃)) :
      Delivers session db each statement s (.error e) s₃

theorem tell_failsBySink (session : Session) (notice : Int × String) :
    Act.FailsBySink (tell session notice : Act σ Unit) := by
  unfold tell
  cases session.log with
  | none => exact .pure ()
  | some k => exact (Act.FailsBySink.write _ _).bind fun _ => .flush _

theorem tell_discreet (session : Session) (notice : Int × String) :
    (tell session notice : Act σ Unit).Discreet := by
  unfold tell
  cases session.log with
  | none => exact .pure ()
  | some k => exact (Act.Discreet.write _ _).bind fun _ => .flush _

theorem trace_failsBySink (session : Session) (db : Connection) (sql : String) :
    Act.FailsBySink (trace session db sql : Act σ Unit) := by
  unfold trace
  split
  · exact .write _ _
  · exact .pure ()

theorem trace_discreet (session : Session) (db : Connection) (sql : String) :
    (trace session db sql : Act σ Unit).Discreet := by
  unfold trace
  split
  · exact .write _ _
  · exact .pure ()

theorem tellAll_failsBySink (session : Session) (logging : Bool) (a : Answer) :
    Act.FailsBySink (tellAll session logging a : Act σ Unit) := by
  unfold tellAll
  split
  · exact .forM (tell_failsBySink session) a.notices
  · exact .pure ()

theorem tellAll_discreet (session : Session) (logging : Bool) (a : Answer) :
    (tellAll session logging a : Act σ Unit).Discreet := by
  unfold tellAll
  split
  · exact .forM (tell_discreet session) a.notices
  · exact .pure ()

theorem permit_discreet (a : Answer) : (permit a : Act σ Unit).Discreet := by
  unfold permit
  split
  · exact .raise a.fault
  · exact .pure ()

theorem consult_discreet (session : Session) (sql : String) :
    (consult session sql : Act σ Answer).Discreet := by
  refine Act.Discreet.world.bind fun w => .bind (.modifyWorld fun _ => rfl) fun _ => ?_
  exact (tellAll_discreet session w.logging _).bind fun _ => (permit_discreet _).bind fun _ => .pure _

private theorem permit_cases (a : Answer) (s : Scene σ) :
    permit a s = (.ok (), s) ∨
      ∃ f, a.rows = none ∧ a.fault = some f ∧ permit a s = (.error (.ofFault f), s) := by
  cases hr : a.rows with
  | some rows => exact Or.inl (by rw [permit, hr]; rfl)
  | none =>
    cases hf : a.fault with
    | none => exact Or.inl (by rw [permit, hr, hf]; rfl)
    | some f => exact Or.inr ⟨f, rfl, rfl, by rw [permit, hr, hf]; rfl⟩

private theorem consult_cases (session : Session) (sql : String) (s : Scene σ) {a : Answer}
    (ha : (s.world.script.answer sql).1 = a) :
    (∃ s', consult session sql s = (.ok a, s')) ∨
      (∃ f s', a.rows = none ∧ a.fault = some f ∧ consult session sql s = (.error (.ofFault f), s')) ∨
      ∃ f s', f.IsOfSink ∧ consult session sql s = (.error f, s') := by
  subst ha
  rcases ht : tellAll session s.world.logging (s.world.script.answer sql).1
      { s with world := { s.world with script := (s.world.script.answer sql).2 } } with ⟨e | _, s₁⟩
  · exact Or.inr (Or.inr ⟨e, s₁, tellAll_failsBySink session _ _ _ e (by rw [ht]), Act.bind_error ht _⟩)
  · have hpermit : consult session sql s = (do
        permit (s.world.script.answer sql).1
        pure (s.world.script.answer sql).1) s₁ := Act.bind_ok ht _
    rcases permit_cases (s.world.script.answer sql).1 s₁ with h | ⟨f, hr, hf, h⟩
    · exact Or.inl ⟨s₁, hpermit.trans (Act.bind_ok h _)⟩
    · exact Or.inr (Or.inl ⟨f, s₁, hr, hf, hpermit.trans (Act.bind_error h _)⟩)

private theorem submit_cases (session : Session) (db : Connection) (statement : List Char) (s : Scene σ) :
    (∃ s', submit session db (String.ofList statement) [] s = (.ok (s.answer statement), s')) ∨
      (∃ f s', (s.answer statement).rows = none ∧ (s.answer statement).fault = some f ∧
        submit session db (String.ofList statement) [] s = (.error (.ofFault f), s')) ∨
      ∃ f s', f.IsOfSink ∧ submit session db (String.ofList statement) [] s = (.error f, s') := by
  rcases consult_cases session (String.ofList statement)
      (s.noted (.engine (.execute (String.ofList statement) []))) rfl with
    ⟨s₁, h⟩ | ⟨f, s₁, hr, hf, h⟩ | ⟨f, s₁, hf, h⟩
  · have hbegan : submit session db (String.ofList statement) [] s = (do
        trace session db (String.ofList statement)
        pure (s.answer statement)) (s₁.noted (.began (String.ofList statement))) := Act.bind_ok h _
    rcases ht : trace session db (String.ofList statement)
        (s₁.noted (.began (String.ofList statement))) with ⟨e | _, s₂⟩
    · exact Or.inr (Or.inr ⟨e, s₂, trace_failsBySink session db _ _ e (by rw [ht]),
        hbegan.trans (Act.bind_error ht _)⟩)
    · exact Or.inl ⟨s₂, hbegan.trans (Act.bind_ok ht _)⟩
  · exact Or.inr (Or.inl ⟨f, s₁, hr, hf, Act.bind_error h _⟩)
  · exact Or.inr (Or.inr ⟨f, s₁, hf, Act.bind_error h _⟩)

/-- A text that is submitted is the one more text that the engine was given. -/
theorem submit_given (session : Session) (db : Connection) (sql : String) (s : Scene σ) :
    (submit session db sql [] s).2.world.stance =
      (s.world.given ++ [sql], s.world.counting.isSome) := by
  have hrest : (do
      let a ← consult session sql
      Act.note (.began sql)
      trace session db sql
      pure a : Act σ Answer).Discreet := by
    refine (consult_discreet session sql).bind fun a => (Act.Discreet.note rfl).bind fun _ => ?_
    exact (trace_discreet session db sql).bind fun _ => .pure a
  have hevent := hrest (s.noted (.engine (.execute sql [])))
  refine Eq.trans hevent ?_
  simp [Scene.noted, World.stance, World.given_note, Deed.given?]

private theorem takeRows_cases (each : Row → Act σ Bool) (columns : List String) (i : Nat)
    (rows : List (List Sql.Value)) (s : Scene σ) :
    let found := (rows.zipIdx i).map fun (values, i) => ⟨columns, values, true, i⟩
    let taken := takeRows (fun index values => each ⟨columns, values, true, index⟩) i rows s
    (∃ s', Takes each s found s' ∧ taken = (.ok true, s')) ∨
      ∃ before row after s₁ s', found = before ++ row :: after ∧ Takes each s before s₁ ∧
        ((each row s₁ = (.ok true, s') ∧ taken = (.ok false, s')) ∨
          ∃ e, each row s₁ = (.error e, s') ∧ taken = (.error e, s')) := by
  induction rows generalizing i s with
  | nil => exact Or.inl ⟨s, .nil s, rfl⟩
  | cons values rows ih =>
    rcases hrow : each ⟨columns, values, true, i⟩ s with ⟨e | stop, s₁⟩
    · exact Or.inr ⟨[], _, _, s, s₁, rfl, .nil s, Or.inr ⟨e, hrow, Act.bind_error hrow _⟩⟩
    · cases stop with
      | true => exact Or.inr ⟨[], _, _, s, s₁, rfl, .nil s, Or.inl ⟨hrow, Act.bind_ok hrow _⟩⟩
      | false =>
        have hstep := Act.bind_ok hrow fun stop => if stop then pure false else
          takeRows (fun index values => each ⟨columns, values, true, index⟩) (i + 1) rows
        rcases ih (i + 1) s₁ with ⟨s', ht, hr⟩ | ⟨before, row, after, s₂, s', hf, ht, hr⟩
        · exact Or.inl ⟨s', .cons hrow ht, hstep.trans hr⟩
        · refine Or.inr ⟨_ :: before, row, after, s₂, s', congrArg (_ :: ·) hf, .cons hrow ht, ?_⟩
          rcases hr with ⟨hlast, hr⟩ | ⟨e, hlast, hr⟩
          · exact Or.inl ⟨hlast, hstep.trans hr⟩
          · exact Or.inr ⟨e, hlast, hstep.trans hr⟩

private theorem finish_eq (a : Answer) (s : Scene σ) :
    finish a s = (ending a.fault, s.tallied a.counters) := by
  cases h : a.fault <;> simp [finish, h] <;> rfl

/-- What a statement does between the engine and the reader of its rows. -/
theorem deliver_delivers (session : Session) (db : Connection) (each : Row → Act σ Bool)
    (statement : List Char) (s : Scene σ) :
    Delivers session db each statement s (deliver session db each statement s).1
      (deliver session db each statement s).2 := by
  rcases submit_cases session db statement s with ⟨s₁, hs⟩ | ⟨f, s₁, ha, hf, hs⟩ | ⟨f, s₁, hf, hs⟩
  · have hd := Act.bind_ok hs fun a => do
      if ← takeRows (fun index values => each ⟨a.columns, values, true, index⟩) 0 (a.rows.getD [])
        then finish a else abandon a
    rcases takeRows_cases each (s.answer statement).columns 0 ((s.answer statement).rows.getD []) s₁
      with ⟨s₂, hrows, ht⟩ | ⟨before, row, after, s₂, s₃, ha, hrows, ⟨hrow, ht⟩ | ⟨e, hrow, ht⟩⟩
    · rw [show deliver session db each statement s = _ from
        hd.trans ((Act.bind_ok ht _).trans (finish_eq _ s₂))]
      exact .drained hs hrows
    · rw [show deliver session db each statement s = _ from hd.trans (Act.bind_ok ht _)]
      exact .stopped hs ha hrows hrow
    · rw [show deliver session db each statement s = _ from hd.trans (Act.bind_error ht _)]
      exact .broken hs ha hrows hrow
  · rw [show deliver session db each statement s = _ from Act.bind_error hs _]
    exact .refused ha hf hs
  · rw [show deliver session db each statement s = _ from Act.bind_error hs _]
    exact .untold hf hs

theorem Takes.stance {each : Row → Act σ Bool} {s s' : Scene σ} {rows : List Row}
    (heach : ∀ row, (each row).Discreet) (h : Takes each s rows s') :
    s'.world.stance = s.world.stance := by
  induction h with
  | nil => rfl
  | cons hrow _ ih => exact ih.trans ((heach _).stance_eq hrow)

/-- However the statement ends, it is the one more text that the engine was given. -/
theorem Delivers.stance {session : Session} {db : Connection} {each : Row → Act σ Bool}
    {statement : List Char} {s s' : Scene σ} {r : Except Failure Unit}
    (heach : ∀ row, (each row).Discreet) (h : Delivers session db each statement s r s') :
    s'.world.stance = (s.world.given ++ [String.ofList statement], s.world.counting.isSome) := by
  have hsubmit := submit_given session db (String.ofList statement) s
  cases h with
  | refused _ _ hs => rwa [hs] at hsubmit
  | untold _ hs => rwa [hs] at hsubmit
  | drained hs hrows =>
    rw [hs] at hsubmit
    rw [Scene.tallied_stance, hrows.stance heach, hsubmit]
  | stopped hs _ hrows hrow =>
    rw [hs] at hsubmit
    rw [Scene.tallied_stance, Scene.noted_stance rfl, (heach _).stance_eq hrow, hrows.stance heach,
      hsubmit]
  | broken hs _ hrows hrow =>
    rw [hs] at hsubmit
    rw [(heach _).stance_eq hrow, hrows.stance heach, hsubmit]

end Execute
end SqlConsole

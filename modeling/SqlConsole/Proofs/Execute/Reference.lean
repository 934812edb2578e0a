import SqlConsole.Proofs.Execute.Delivery
import SqlConsole.Proofs.Statement.Coverage

/-! SQL text run statement by statement: in which order the engine gets the statements, where that
stops, and what is told of it. -/
namespace SqlConsole

namespace Scene
variable {σ : Type}

/-- No statement is being run any more. -/
def idle (s : Scene σ) : Scene σ := { s with world := { s.world with statement := none } }

def counting (c : Option Engine.Counters) (s : Scene σ) : Scene σ :=
  { s with world := { s.world with counting := c } }

@[simp] theorem idle_statement (s : Scene σ) : s.idle.world.statement = none := rfl

@[simp] theorem idle_stance (s : Scene σ) : s.idle.world.stance = s.world.stance := rfl

@[simp] theorem counting_given (c : Option Engine.Counters) (s : Scene σ) :
    (s.counting c).world.given = s.world.given := rfl

end Scene

namespace Execute

open Layout (Row)

variable {σ : Type}

/-- How a statement is run: it is announced, and its rows are delivered. Where the session asks for
statistics, they are counted meanwhile and written when all of it went well. -/
inductive Executes (session : Session) (db : Connection) (each : Row → Act σ Bool)
    (statement : List Char) : Scene σ → Except Failure Unit → Scene σ → Prop where
  | plain {s s₁ s₂ : Scene σ} {r : Except Failure Unit} (hstats : session.settings.stats = false)
      (ha : announce session statement s = (.ok (), s₁))
      (hd : Delivers session db each statement s₁ r s₂) :
      Executes session db each statement s r s₂
  | uncounted {s s₁ s₂ : Scene σ} {e : Failure} (hstats : session.settings.stats = true)
      (ha : announce session statement s = (.ok (), s₁))
      (hd : Delivers session db each statement (s₁.counting (some {})) (.error e) s₂) :
      Executes session db each statement s (.error e) (s₂.counting none)
  | counted {s s₁ s₂ s₃ : Scene σ} {r : Except Failure Unit}
      (hstats : session.settings.stats = true)
      (ha : announce session statement s = (.ok (), s₁))
      (hd : Delivers session db each statement (s₁.counting (some {})) (.ok ()) s₂)
      (hw : writeStatistics session true (some (s₂.world.counting.getD {})) (s₂.counting none) =
        (r, s₃)) :
      Executes session db each statement s r s₃

/-- Statements that are run one after the other, all of them to a good end. -/
inductive Completes (session : Session) (db : Connection) (each : Row → Act σ Bool) :
    Scene σ → List (List Char) → Scene σ → Prop where
  | nil (s : Scene σ) : Completes session db each s [] s
  | cons {s s₁ s₂ : Scene σ} {p : List Char} {ps : List (List Char)}
      (hp : Executes session db each p s (.ok ()) s₁)
      (hps : Completes session db each s₁.idle ps s₂) : Completes session db each s (p :: ps) s₂

/-- How a run ends, when these statements are left, and which of them is still given to the engine.
Either none is left, and the text may have an end that cannot be told; or the engine refuses the next
one, which is reported once or ends the run; or something else ends the run there, before the
statement is given to the engine or after that. -/
inductive Concludes (session : Session) (db : Connection) (each : Row → Act σ Bool)
    (report? : Option (Engine.Error → Act σ Unit)) (settled : Bool) :
    Scene σ → List (List Char) → List (List Char) → Except Failure Nat → Scene σ → Prop where
  | finished {s : Scene σ} (hs : settled = true) :
      Concludes session db each report? settled s [] [] (.ok 0) s
  | unsettled {s : Scene σ} (hs : settled = false) :
      Concludes session db each report? settled s [] [] (.error .zeroCharacter) s
  | reported {s s₁ s₂ : Scene σ} {p : List Char} {later : List (List Char)} {e : Engine.Error}
      {report : Engine.Error → Act σ Unit} (hr : report? = some report)
      (hp : Executes session db each p s (.error (.engine e)) s₁)
      (he : report e s₁ = (.ok (), s₂)) :
      Concludes session db each report? settled s (p :: later) [p] (.ok 1) s₂.idle
  | unreported {s s₁ s₂ : Scene σ} {p : List Char} {later : List (List Char)} {e : Engine.Error}
      {f : Failure} {report : Engine.Error → Act σ Unit} (hr : report? = some report)
      (hp : Executes session db each p s (.error (.engine e)) s₁)
      (he : report e s₁ = (.error f, s₂)) :
      Concludes session db each report? settled s (p :: later) [p] (.error f) s₂.idle
  | raised {s s₁ : Scene σ} {p : List Char} {later : List (List Char)} {e : Engine.Error}
      (hr : report? = none) (hp : Executes session db each p s (.error (.engine e)) s₁) :
      Concludes session db each report? settled s (p :: later) [p] (.error (.engine e)) s₁.idle
  | ended {s s₁ : Scene σ} {p : List Char} {later : List (List Char)} {f : Failure}
      (hf : ∀ e, f ≠ .engine e) (hp : Executes session db each p s (.error f) s₁) :
      Concludes session db each report? settled s (p :: later) [p] (.error f) s₁.idle
  | unannounced {s s₁ : Scene σ} {p : List Char} {later : List (List Char)} {f : Failure}
      (hf : f.IsOfSink) (ha : announce session p s = (.error f, s₁)) :
      Concludes session db each report? settled s (p :: later) [] (.error f) s₁.idle

variable {session : Session} {db : Connection} {each : Row → Act σ Bool}

private theorem announce_failsBySink (session : Session) (p : List Char) :
    (announce session p : Act σ Unit).FailsBySink := by
  refine .bind (.modifyWorld _) fun _ => ?_
  split
  · exact .write _ _
  · exact .pure ()

private theorem announce_discreet (session : Session) (p : List Char) :
    (announce session p : Act σ Unit).Discreet := by
  refine .bind (.modifyWorld fun _ => rfl) fun _ => ?_
  split
  · exact .write _ _
  · exact .pure ()

private theorem writeStatistics_discreet (session : Session) (c : Engine.Counters) :
    (writeStatistics session true (some c) : Act σ Unit).Discreet :=
  Act.Discreet.world.bind fun _ => .forM (fun _ => .write _ _) _

private theorem counting_on (s : Scene σ) :
    (Act.modifyWorld fun w => { w with counting := some {} } : Act σ Unit) s =
      (.ok (), s.counting (some {})) := rfl

theorem counted_ok {x : Act σ Unit} {s s₁ : Scene σ}
    (h : x (s.counting (some {})) = (.ok (), s₁)) :
    counted x s = (.ok (s₁.world.counting.getD {}), s₁.counting none) := by
  have hx : Act.attempt x (s.counting (some {})) = (.ok (.ok ()), s₁) := by rw [Act.attempt, h]
  exact (Act.bind_ok (counting_on s) _).trans (Act.bind_ok hx _)

theorem counted_error {x : Act σ Unit} {s s₁ : Scene σ} {e : Failure}
    (h : x (s.counting (some {})) = (.error e, s₁)) :
    counted x s = (.error e, s₁.counting none) := by
  have hx : Act.attempt x (s.counting (some {})) = (.ok (.error e), s₁) := by rw [Act.attempt, h]
  exact (Act.bind_ok (counting_on s) _).trans (Act.bind_ok hx _)

/-- A statement is not announced, or it is run. -/
theorem runStatement_executes (session : Session) (db : Connection) (each : Row → Act σ Bool)
    (p : List Char) (s : Scene σ) :
    (∃ f s', f.IsOfSink ∧ announce session p s = (.error f, s') ∧
        runStatement session db each p s = (.error f, s')) ∨
      Executes session db each p s (runStatement session db each p s).1
        (runStatement session db each p s).2 := by
  rcases ha : announce session p s with ⟨e | _, s₁⟩
  · exact Or.inl ⟨e, s₁, announce_failsBySink session p s e (by rw [ha]), rfl, Act.bind_error ha _⟩
  · right
    have hrun := Act.bind_ok ha fun _ =>
      if session.settings.stats then do
        let c ← counted (deliver session db each p)
        writeStatistics session true (some c)
      else deliver session db each p
    cases hstats : session.settings.stats with
    | false =>
      rw [show runStatement session db each p s = deliver session db each p s₁ by
        refine hrun.trans ?_
        rw [hstats]; rfl]
      exact .plain hstats ha (deliver_delivers session db each p s₁)
    | true =>
      have hd := deliver_delivers session db each p (s₁.counting (some {}))
      rw [show runStatement session db each p s = (do
          let c ← counted (deliver session db each p)
          writeStatistics session true (some c)) s₁ by
        refine hrun.trans ?_
        rw [hstats]; rfl]
      rcases hx : deliver session db each p (s₁.counting (some {})) with ⟨e | _, s₂⟩ <;>
        rw [hx] at hd
      · rw [Act.bind_error (counted_error hx)]
        exact .uncounted hstats ha hd
      · rw [Act.bind_ok (counted_ok hx)]
        exact .counted hstats ha hd rfl

private theorem turn_eq {report? : Option (Engine.Error → Act σ Unit)} {p : List Char}
    {s s₁ s₂ : Scene σ} {x : Except Failure Unit} {r : Except Failure Bool}
    (hx : runStatement session db each p s = (x, s₁)) (hr : settle report? x s₁ = (r, s₂)) :
    turn session db each report? p s = (r, s₂.idle) := by
  have hsettle : (do
      let ending ← Act.attempt (runStatement session db each p)
      settle report? ending : Act σ Bool) s = (r, s₂) := by
    rw [Act.bind_apply, Act.attempt, hx]
    exact hr
  rw [turn, Act.ensuring, hsettle]
  rfl

/-- One turn: the statement comes to a good end, or the run does. -/
private theorem turn_cases (session : Session) (db : Connection) (each : Row → Act σ Bool)
    (report? : Option (Engine.Error → Act σ Unit)) (settled : Bool) (p : List Char)
    (later : List (List Char)) (s : Scene σ) :
    (∃ s₁, Executes session db each p s (.ok ()) s₁ ∧
        turn session db each report? p s = (.ok false, s₁.idle)) ∨
      (∃ s', turn session db each report? p s = (.ok true, s') ∧
        Concludes session db each report? settled s (p :: later) [p] (.ok 1) s') ∨
      ∃ f s' given, turn session db each report? p s = (.error f, s') ∧
        Concludes session db each report? settled s (p :: later) given (.error f) s' := by
  rcases runStatement_executes session db each p s with ⟨f, s₁, hf, ha, hx⟩ | hp
  · have hr : settle report? (.error f) s₁ = (.error f, s₁) := by
      obtain ⟨k, fault, rfl⟩ := hf
      rfl
    exact Or.inr (Or.inr ⟨_, _, _, turn_eq hx hr, .unannounced hf ha⟩)
  · rcases hx : runStatement session db each p s with ⟨f | _, s₁⟩ <;> rw [hx] at hp
    · by_cases hf : ∃ e, f = .engine e
      · obtain ⟨e, rfl⟩ := hf
        cases report? with
        | none => exact Or.inr (Or.inr ⟨_, _, _, turn_eq hx rfl, .raised rfl hp⟩)
        | some report =>
          rcases he : report e s₁ with ⟨f | _, s₂⟩
          · have hr : settle (some report) (.error (.engine e)) s₁ = (.error f, s₂) :=
              Act.bind_error he _
            exact Or.inr (Or.inr ⟨_, _, _, turn_eq hx hr, .unreported rfl hp he⟩)
          · have hr : settle (some report) (.error (.engine e)) s₁ = (.ok true, s₂) :=
              Act.bind_ok he _
            exact Or.inr (Or.inl ⟨_, turn_eq hx hr, .reported rfl hp he⟩)
      · have hr : settle report? (.error f) s₁ = (.error f, s₁) := by
          cases f <;> first | rfl | exact absurd ⟨_, rfl⟩ hf
        exact Or.inr (Or.inr ⟨_, _, _, turn_eq hx hr, .ended (fun e he => hf ⟨e, he⟩) hp⟩)
    · exact Or.inl ⟨s₁, hp, turn_eq hx rfl⟩

private theorem runAll_concludes (session : Session) (db : Connection) (each : Row → Act σ Bool)
    (report? : Option (Engine.Error → Act σ Unit)) (settled : Bool) (ps : List (List Char))
    (s : Scene σ) :
    (∃ s₁, Completes session db each s ps s₁ ∧
        runAll session db each report? ps s = (.ok 0, s₁)) ∨
      ∃ done rest given s₁, ps = done ++ rest ∧ Completes session db each s done s₁ ∧
        (runAll session db each report? ps s).1 ≠ .ok 0 ∧
        Concludes session db each report? settled s₁ rest given
          (runAll session db each report? ps s).1 (runAll session db each report? ps s).2 := by
  induction ps generalizing s with
  | nil => exact Or.inl ⟨s, .nil s, rfl⟩
  | cons p ps ih =>
    rcases turn_cases session db each report? settled p ps s with
      ⟨s₁, hp, ht⟩ | ⟨s', ht, hc⟩ | ⟨f, s', given, ht, hc⟩
    · have hrun : runAll session db each report? (p :: ps) s =
          runAll session db each report? ps s₁.idle := Act.bind_ok ht _
      rw [hrun]
      rcases ih s₁.idle with ⟨s₂, hps, hr⟩ | ⟨done, rest, given, s₂, rfl, hps, hr⟩
      · exact Or.inl ⟨s₂, .cons hp hps, hr⟩
      · exact Or.inr ⟨p :: done, rest, given, s₂, rfl, .cons hp hps, hr⟩
    · have hrun : runAll session db each report? (p :: ps) s = (.ok 1, s') := Act.bind_ok ht _
      rw [hrun]
      exact Or.inr ⟨[], p :: ps, [p], s, rfl, .nil s, by simp, hc⟩
    · have hrun : runAll session db each report? (p :: ps) s = (.error f, s') := Act.bind_error ht _
      rw [hrun]
      exact Or.inr ⟨[], p :: ps, given, s, rfl, .nil s, by simp, hc⟩

/-- Between two scenes the engine was given these statements, and no counting was left on. -/
def Gives (s : Scene σ) (ps : List (List Char)) (s' : Scene σ) : Prop :=
  s'.world.given = s.world.given ++ ps.map String.ofList ∧
    (s.world.counting = none → s'.world.counting = none)

theorem Gives.of_stance {s s' : Scene σ} (h : s'.world.stance = s.world.stance) :
    Gives s [] s' := by
  obtain ⟨hg, hc⟩ := Prod.mk.inj h
  refine ⟨by rw [hg]; simp, fun hs => ?_⟩
  rw [hs] at hc
  exact Option.isSome_eq_false_iff.1 hc |> Option.isNone_iff_eq_none.1

theorem Gives.trans {s s₁ s₂ : Scene σ} {ps qs : List (List Char)} (h : Gives s ps s₁)
    (h' : Gives s₁ qs s₂) : Gives s (ps ++ qs) s₂ :=
  ⟨by rw [h'.1, h.1, List.map_append, List.append_assoc], fun hs => h'.2 (h.2 hs)⟩

theorem Gives.idle {s s' : Scene σ} {ps : List (List Char)} (h : Gives s ps s') :
    Gives s ps s'.idle := h

theorem Delivers.gives {p : List Char} {s s' : Scene σ} {r : Except Failure Unit}
    (heach : ∀ row, (each row).Discreet) (h : Delivers session db each p s r s') :
    Gives s [p] s' := by
  obtain ⟨hg, hc⟩ := Prod.mk.inj (h.stance heach)
  refine ⟨hg, fun hs => ?_⟩
  rw [hs] at hc
  exact Option.isSome_eq_false_iff.1 hc |> Option.isNone_iff_eq_none.1

theorem Executes.gives {p : List Char} {s s' : Scene σ} {r : Except Failure Unit}
    (heach : ∀ row, (each row).Discreet) (h : Executes session db each p s r s') :
    Gives s [p] s' := by
  cases h with
  | plain hstats ha hd =>
    exact (Gives.of_stance ((announce_discreet session p).stance_eq ha)).trans (hd.gives heach)
  | uncounted hstats ha hd =>
    have hgiven := (Gives.of_stance ((announce_discreet session p).stance_eq ha)).1
    exact ⟨(hd.gives heach).1.trans (by rw [Scene.counting_given, hgiven]; simp), fun _ => rfl⟩
  | counted hstats ha hd hw =>
    have hgiven := (Gives.of_stance ((announce_discreet session p).stance_eq ha)).1
    have hwrite := Gives.of_stance ((writeStatistics_discreet session _).stance_eq hw)
    refine ⟨hwrite.1.trans ?_, fun _ => hwrite.2 rfl⟩
    rw [Scene.counting_given, (hd.gives heach).1, Scene.counting_given, hgiven]
    simp

theorem Completes.gives {ps : List (List Char)} {s s' : Scene σ}
    (heach : ∀ row, (each row).Discreet) (h : Completes session db each s ps s') :
    Gives s ps s' := by
  induction h with
  | nil s => exact .of_stance rfl
  | cons hp _ ih => exact (hp.gives heach).trans ih

theorem Completes.statement {ps : List (List Char)} {s s' : Scene σ}
    (h : Completes session db each s ps s') (hs : s.world.statement = none) :
    s'.world.statement = none := by
  induction h with
  | nil => exact hs
  | cons _ _ ih => exact ih rfl

theorem Concludes.gives {report? : Option (Engine.Error → Act σ Unit)} {settled : Bool}
    {s s' : Scene σ} {rest given : List (List Char)} {r : Except Failure Nat}
    (heach : ∀ row, (each row).Discreet)
    (hreport : ∀ report ∈ report?, ∀ e, (report e).Discreet)
    (h : Concludes session db each report? settled s rest given r s') : Gives s given s' := by
  cases h with
  | finished => exact .of_stance rfl
  | unsettled => exact .of_stance rfl
  | @reported _ _ _ _ e _ hr hp he =>
    exact ((hp.gives heach).trans (.of_stance ((hreport _ hr e).stance_eq he))).idle
  | @unreported _ _ _ _ e _ _ hr hp he =>
    exact ((hp.gives heach).trans (.of_stance ((hreport _ hr e).stance_eq he))).idle
  | raised _ hp => exact (hp.gives heach).idle
  | ended _ hp => exact (hp.gives heach).idle
  | unannounced _ ha => exact (Gives.of_stance ((announce_discreet session _).stance_eq ha)).idle

theorem Concludes.given_prefix {report? : Option (Engine.Error → Act σ Unit)} {settled : Bool}
    {s s' : Scene σ} {rest given : List (List Char)} {r : Except Failure Nat}
    (h : Concludes session db each report? settled s rest given r s') :
    ∃ left, rest = given ++ left ∧ (r = .ok 0 → left = []) := by
  cases h with
  | finished => exact ⟨[], rfl, fun _ => rfl⟩
  | unsettled => exact ⟨[], rfl, fun _ => rfl⟩
  | reported => exact ⟨_, rfl, fun h => by cases h⟩
  | unreported => exact ⟨_, rfl, fun h => by cases h⟩
  | raised => exact ⟨_, rfl, fun h => by cases h⟩
  | ended => exact ⟨_, rfl, fun h => by cases h⟩
  | unannounced => exact ⟨_, rfl, fun h => by cases h⟩

theorem Concludes.statement {report? : Option (Engine.Error → Act σ Unit)} {settled : Bool}
    {s s' : Scene σ} {rest given : List (List Char)} {r : Except Failure Nat}
    (h : Concludes session db each report? settled s rest given r s')
    (hs : s.world.statement = none) : s'.world.statement = none := by
  cases h with
  | finished => exact hs
  | unsettled => exact hs
  | _ => rfl

/-- A run is a number of statements that come to a good end, and then what it concludes on. -/
theorem run_concludes (session : Session) (db : Connection) (each : Row → Act σ Bool)
    (report? : Option (Engine.Error → Act σ Unit)) (sql : String) (s : Scene σ) :
    ∃ done rest given s₁, Statement.runnable sql.toList = done ++ rest ∧
      Completes session db each s done s₁ ∧
      Concludes session db each report? (Statement.isSettled sql.toList) s₁ rest given
        (run session db each report? sql s).1 (run session db each report? sql s).2 := by
  rcases runAll_concludes session db each report? (Statement.isSettled sql.toList)
      (Statement.runnable sql.toList) s with
    ⟨s₁, hps, hr⟩ | ⟨done, rest, given, s₁, hrest, hps, hne, hc⟩
  · refine ⟨_, [], [], s₁, (List.append_nil _).symm, hps, ?_⟩
    rw [run, Act.bind_ok hr]
    cases hs : Statement.isSettled sql.toList with
    | true => exact .finished rfl
    | false => exact .unsettled rfl
  · refine ⟨done, rest, given, s₁, hrest, hps, ?_⟩
    rcases hr : runAll session db each report? (Statement.runnable sql.toList) s with ⟨f | n, s'⟩
    · rw [run, Act.bind_error hr]
      rwa [hr] at hc
    · rw [hr] at hc hne
      rw [run, Act.bind_ok hr]
      have hn : n ≠ 0 := fun hn => hne (by rw [hn])
      simpa [hn, Act.pure_apply] using hc

/-- SQL text is run like this: the statements that come to a good end, then how the run concludes on
the ones that are left. No statement is being run any more, and if neither the reader of rows nor the
report turns to the engine, it was given these statements alone and counts no more than before. -/
theorem run_reference (session : Session) (db : Connection) (each : Row → Act σ Bool)
    (report? : Option (Engine.Error → Act σ Unit)) (sql : String) (s : Scene σ) :
    ∃ done rest given s₁, Statement.runnable sql.toList = done ++ rest ∧
      Completes session db each s done s₁ ∧
      Concludes session db each report? (Statement.isSettled sql.toList) s₁ rest given
        (run session db each report? sql s).1 (run session db each report? sql s).2 ∧
      (Statement.isSettled sql.toList = true → Statement.runnable sql.toList =
        (Statement.parts sql.toList).filter fun p => !Statement.isVoid p) ∧
      (s.world.statement = none → (run session db each report? sql s).2.world.statement = none) ∧
      ((∀ row, (each row).Discreet) → (∀ report ∈ report?, ∀ e, (report e).Discreet) →
        Gives s (done ++ given) (run session db each report? sql s).2) := by
  obtain ⟨done, rest, given, s₁, hrest, hps, hc⟩ := run_concludes session db each report? sql s
  refine ⟨done, rest, given, s₁, hrest, hps, hc, Statement.runnable_of_isSettled, ?_, ?_⟩
  · exact fun hs => hc.statement (hps.statement hs)
  · exact fun heach hreport => (hps.gives heach).trans (hc.gives heach hreport)

/-- Reads rows by keeping them. -/
def keep (row : Row) : Act (List Row) Bool := do
  Act.modifyOwn (· ++ [row])
  pure false

theorem keep_discreet (row : Row) : (keep row).Discreet :=
  (Act.Discreet.modifyOwn _).bind fun _ => .pure false

/-- A scene with nothing done yet and these answers to come. -/
def fresh (answers : List Engine.Answer) : Scene (List Row) :=
  { world := { script := { answers } }, own := [] }

/-- Answers with which the engine refuses the text `b;`. -/
def refusal : List Engine.Answer := [{ sql := "b;", fault := some (.error ⟨.sql, "no", none⟩) }]

theorem run_reference_refused :
    (∀ row, (keep row).Discreet) ∧ Act.Discreet (pure () : Act (List Row) Unit) ∧
      ∃ ps, Gives (fresh refusal) ps
          (run {} { filename := "" } keep (some fun _ => pure ()) "b;c;" (fresh refusal)).2 ∧
        ps.map String.ofList = ["b;"] := by
  refine ⟨keep_discreet, .pure (), ?_⟩
  obtain ⟨done, rest, given, s₁, -, -, -, -, -, hgives⟩ := run_reference {} { filename := "" } keep
    (some fun _ => pure ()) "b;c;" (fresh refusal)
  have hgives := hgives keep_discreet fun report hreport e => by
    obtain rfl := Option.some.inj hreport
    exact .pure ()
  have hgiven : (run {} { filename := "" } keep (some fun _ => pure ()) "b;c;"
      (fresh refusal)).2.world.given = ["b;"] := by
    have hread : Statement.Reads "b;c;".toList [⟨.other, ['b']⟩, ⟨.semicolon, [';']⟩,
        ⟨.other, ['c']⟩, ⟨.semicolon, [';']⟩] [] :=
      .cons rfl (.cons rfl (.cons rfl (.cons rfl (.nil []))))
    have hparts : Statement.parts "b;c;".toList = ["b;".toList, "c;".toList] :=
      Statement.parts_of_reads hread
    rw [run, Statement.runnable, hparts]
    rfl
  exact ⟨done ++ given, hgives, hgives.1.symm.trans hgiven⟩

/-- A user who stops the engine stops the run, although the engine has refused nothing. -/
theorem run_stopped :
    (Statement.parts "a;b;".toList).filter (fun p => !Statement.isVoid p) =
        ["a;".toList, "b;".toList] ∧
      (run {} { filename := "" } keep (some fun _ => pure ()) "a;b;"
        (fresh [{ sql := "a;", fault := some .interrupted }])).1 = .error .interrupted ∧
      (run {} { filename := "" } keep (some fun _ => pure ()) "a;b;"
        (fresh [{ sql := "a;", fault := some .interrupted }])).2.world.given = ["a;"] := by
  have hread : Statement.Reads "a;b;".toList [⟨.other, ['a']⟩, ⟨.semicolon, [';']⟩,
      ⟨.other, ['b']⟩, ⟨.semicolon, [';']⟩] [] :=
    .cons rfl (.cons rfl (.cons rfl (.cons rfl (.nil []))))
  have hparts : Statement.parts "a;b;".toList = ["a;".toList, "b;".toList] :=
    Statement.parts_of_reads hread
  refine ⟨?_, ?_, ?_⟩
  · rw [hparts]
    rfl
  · rw [run, Statement.runnable, hparts]
    rfl
  · rw [run, Statement.runnable, hparts]
    rfl

end Execute
end SqlConsole

import SqlConsole.Proofs.Engine.Replies
import SqlConsole.Proofs.Execute.Plain
import SqlConsole.Proofs.Execute.Rows
import SqlConsole.Proofs.World.Ensures
import SqlConsole.Proofs.World.Sinks

/-! Which rows a watched run reads that does nothing but read: all rows of each text that the engine
begins to run. -/
namespace SqlConsole.Execute
open Act (Ensures Keeps)
open Engine (Answer)
open Layout (Row)

variable {σ : Type} {w₀ : World} {texts : List String} {rows : List Row}

/-- From the world `w₀` on, the engine was given these texts, and these rows were read. -/
structure Stands (w₀ : World) (texts : List String) (rows : List Row) (s : Scene (σ × Record)) : Prop where
  given : s.world.given = w₀.given ++ texts
  script : s.world.script = w₀.script.after texts
  rows : s.own.2.rows = rows

/-- All rows of the answers to some texts. -/
def rowsOf (w₀ : World) (texts : List String) : List Row :=
  (w₀.script.replies texts).flatMap numbered

/-- All rows were read of all texts that the engine was given. -/
def Drained (w₀ : World) (s : Scene (σ × Record)) : Prop :=
  ∃ texts, Stands w₀ texts (rowsOf w₀ texts) s

/-- All rows were read, or none of the last text, since a message about that one could not be
written. -/
def Halted (w₀ : World) (e : Failure) (s : Scene (σ × Record)) : Prop :=
  Drained w₀ s ∨
    e.IsOfSink ∧ ∃ texts sql, Stands w₀ (texts ++ [sql]) (rowsOf w₀ texts) s

private theorem stands_of_past {s : Scene (σ × Record)} (h : Stands w₀ texts rows s) {w : World}
    (hscript : w.script = s.world.script) (hgiven : w.given = s.world.given) :
    Stands w₀ texts rows ⟨w, s.own⟩ :=
  ⟨hgiven.trans h.given, hscript.trans h.script, h.rows⟩

private theorem write_stands (k : Sink) (text : List Char) :
    Keeps (Stands w₀ texts rows) (Act.write k text : Act (σ × Record) Unit) := by
  intro s h
  obtain ⟨r, w, hwrite, hstays, -⟩ := Act.write_cases k text s
  have h' := stands_of_past h hstays.script
    (congrArg Prod.fst ((Act.Discreet.write k text).stance_eq hwrite))
  rw [hwrite]
  cases r <;> exact h'

private theorem flush_stands (k : Sink) :
    Keeps (Stands w₀ texts rows) (Act.flush k : Act (σ × Record) Unit) := by
  intro s h
  obtain ⟨r, w, hflush, hstays, -⟩ := Act.flush_cases k s
  have h' := stands_of_past h hstays.script (congrArg Prod.fst ((Act.Discreet.flush k).stance_eq hflush))
  rw [hflush]
  cases r <;> exact h'

private theorem note_stands {d : Deed} (hd : d.given? = none) :
    Keeps (Stands w₀ texts rows) (Act.note d : Act (σ × Record) Unit) :=
  fun s h => stands_of_past h rfl (by simp [World.given_note, hd])

private theorem tellAll_stands (session : Session) (logging : Bool) (a : Answer) :
    Keeps (Stands w₀ texts rows) (tellAll session logging a : Act (σ × Record) Unit) := by
  unfold tellAll
  split
  · refine .forM (fun notice => ?_) _
    unfold tell
    split
    · exact .pure ()
    · exact .bind (write_stands _ _) fun _ => flush_stands _
  · exact .pure ()

private theorem trace_stands (session : Session) (db : Connection) (sql : String) :
    Keeps (Stands w₀ texts rows) (trace session db sql : Act (σ × Record) Unit) := by
  unfold trace
  split
  · exact write_stands _ _
  · exact .pure ()

/-- The action failed, and all of that stands. Either the answer has no rows, or a message about it
could not be written. -/
private def Unread (a : Answer) (I : Scene σ → Prop) (e : Failure) (s : Scene σ) : Prop :=
  (a.rows = none ∨ e.IsOfSink) ∧ I s

private theorem unread_of_keeps {I : Scene σ → Prop} {x : Act σ Unit} (hx : Keeps I x)
    (hfails : x.FailsBySink) (a : Answer) : Ensures I x (fun _ => I) (Unread a I) := by
  intro s hs
  have hends := hx s hs
  rcases h : x s with ⟨e | _, s'⟩ <;> rw [h] at hends
  · exact ⟨.inr (hfails s e (by rw [h])), hends⟩
  · exact hends

private theorem permit_unread {I : Scene σ → Prop} (a : Answer) :
    Ensures I (permit a : Act σ Unit) (fun _ => I) (Unread a I) := by
  unfold permit
  split
  · next hrows =>
    cases a.fault with
    | none => exact .pure fun _ hs => hs
    | some f => exact .fail fun _ hs => ⟨.inl (Option.isNone_iff_eq_none.1 hrows), hs⟩
  · exact .pure fun _ hs => hs

private theorem stands_asked {s : Scene (σ × Record)} (h : Stands w₀ texts rows s) (sql : String) :
    Stands w₀ (texts ++ [sql]) rows ((s.noted (.engine (.execute sql []))).answered sql) where
  given := by
    have hgiven := World.given_note s.world (.engine (.execute sql []))
    rw [h.given, List.append_assoc] at hgiven
    exact hgiven
  script := by
    rw [Engine.Script.after_concat, ← h.script]
    rfl
  rows := h.rows

/-- The engine begins to run one more text, or no row of that is to be read. -/
private theorem submit_stands (session : Session) (db : Connection) (sql : String) {a : Answer}
    (ha : ((w₀.script.after texts).answer sql).1 = a) :
    Ensures (Stands w₀ texts rows) (submit session db sql [] : Act (σ × Record) Answer)
      (fun a' s => a' = a ∧ Stands w₀ (texts ++ [sql]) rows s)
      (Unread a (Stands w₀ (texts ++ [sql]) rows)) := by
  intro s h
  have hrest : Ensures (Stands w₀ (texts ++ [sql]) rows)
      ((do
        tellAll session s.world.logging a
        permit a
        pure a) >>= fun a => do
        Act.note (.began sql)
        trace session db sql
        pure a : Act (σ × Record) Answer)
      (fun a' s => a' = a ∧ Stands w₀ (texts ++ [sql]) rows s)
      (Unread a (Stands w₀ (texts ++ [sql]) rows)) := by
    refine .bind (.bind (unread_of_keeps (tellAll_stands _ _ a) (tellAll_failsBySink _ _ a) a) fun _ =>
      .bind (permit_unread a) fun _ => .pure (Q := fun a' s => a' = a ∧ Stands w₀ (texts ++ [sql]) rows s)
        fun _ h => ⟨rfl, h⟩) fun a' => .assume ?_
    rintro rfl
    refine .bind (unread_of_keeps (note_stands rfl) (.modifyWorld _) a') fun _ =>
      .bind (unread_of_keeps (trace_stands session db sql) (trace_failsBySink session db sql) a')
        fun _ => .pure fun _ h => ⟨rfl, h⟩
  rw [← h.script] at ha
  subst ha
  exact hrest _ (stands_asked h sql)

theorem rowsOf_concat (w₀ : World) (texts : List String) (sql : String) :
    rowsOf w₀ (texts ++ [sql]) = rowsOf w₀ texts ++ numbered ((w₀.script.after texts).answer sql).1 := by
  simp [rowsOf, Engine.Script.replies_concat]

private theorem numbered_concat (a : Answer) (taken : List (List Sql.Value)) (values : List Sql.Value) :
    numbered { a with rows := some (taken ++ [values]) } = numbered { a with rows := some taken } ++
      [{ columns := a.columns, values, typed := true, index := taken.length }] := by
  simp [numbered, List.zipIdx_append]

private theorem finish_drained (a : Answer) :
    Keeps (Drained w₀) (finish a : Act (σ × Record) Unit) := by
  have hcount : Keeps (Drained w₀) (count a.counters : Act (σ × Record) Unit) :=
    fun _ h => h.imp fun _ h => ⟨h.given, h.script, h.rows⟩
  exact hcount.bind fun _ => .raise _

/-- All rows of one more text are read. -/
private theorem deliver_drained (session : Session) (db : Connection) (p : List Char) :
    Ensures (Drained w₀) (deliver session db (watchRows fun _ => pure false) p : Act (σ × Record) Unit)
      (fun _ => Drained w₀) (Halted w₀) := by
  rintro s ⟨texts, h⟩
  generalize ha : ((w₀.script.after texts).answer (String.ofList p)).1 = a
  have hall : rowsOf w₀ (texts ++ [String.ofList p]) = rowsOf w₀ texts ++ numbered a := by
    rw [rowsOf_concat, ha]
  let taking (taken : List (List Sql.Value)) : Scene (σ × Record) → Prop :=
    Stands w₀ (texts ++ [String.ofList p]) (rowsOf w₀ texts ++ numbered { a with rows := some taken })
  have hstart : taking [] = Stands w₀ (texts ++ [String.ofList p]) (rowsOf w₀ texts) := by
    simp [taking, numbered]
  refine query_ensures_taken (J := fun a' taken s => a' = a ∧ taking taken s)
    ((submit_stands session db _ ha).mono (fun _ h => h) ?_ ?_) ?_ ?_ s h
  · rw [hstart]
    exact fun _ _ h => h
  · rintro e s ⟨hrows | hsink, h⟩
    · have hnone : numbered a = [] := by simp [numbered, hrows]
      rw [hnone, List.append_nil] at hall
      exact .inl ⟨_, hall ▸ h⟩
    · exact .inr ⟨hsink, _, _, h⟩
  · rintro a' taken values rest - s ⟨rfl, h⟩
    refine ⟨rfl, rfl, h.given, h.script, ?_⟩
    rw [numbered_concat, ← List.append_assoc, ← h.rows]
  · refine fun a' => .assume fun ha' => ?_
    subst ha'
    have hdrained (s : Scene (σ × Record)) (h : taking (a'.rows.getD []) s) : Drained w₀ s :=
      ⟨_, by rw [hall]; exact h⟩
    exact (finish_drained a').mono hdrained (fun _ _ h => h) fun _ _ h => .inl h

section Run
variable {session : Session} {db : Connection} {text : Engine.Error → String}

private theorem runStatement_drained (p : List Char) :
    Ensures (Drained w₀)
      (runStatement session.plain db (watchRows fun _ => pure false) p : Act (σ × Record) Unit)
      (fun _ => Drained w₀) (Halted w₀) := by
  have hset : Ensures (Drained w₀) (setStatement (some (String.ofList p)) : Act (σ × Record) Unit)
      (fun _ => Drained w₀) (Halted w₀) := fun _ h => h.imp fun _ h => ⟨h.given, h.script, h.rows⟩
  have hplain : Ensures (Drained w₀) (announce session.plain p : Act (σ × Record) Unit)
      (fun _ => Drained w₀) (Halted w₀) := hset.bind fun _ => .pure fun _ h => h
  exact hplain.bind fun _ => deliver_drained session.plain db p

/-- An error of the engine is settled after its statement, which has no rows left then. -/
private theorem settle_drained (ending : Except Failure Unit) :
    Ensures (fun s => Act.Ends (fun _ => Drained w₀) (Halted w₀) (ending, s))
      (settle (some (watchErrors text (report text))) ending :
        Act (σ × Record) Bool)
      (fun _ => Drained w₀) (Halted w₀) := by
  rcases ending with f | _
  · cases f with
    | engine e =>
      rintro s (⟨texts, h⟩ | ⟨⟨_, _, hsink⟩, -⟩)
      · exact ⟨texts, (World.given_note _ _).trans ((List.append_nil _).trans h.given), h.script, h.rows⟩
      · cases hsink
    | _ => exact .fail fun _ h => h
  · exact .pure fun _ h => h

private theorem turn_drained (p : List Char) :
    Ensures (Drained w₀)
      (turn session.plain db (watchRows fun _ => pure false)
        (some (watchErrors text (report text))) p : Act (σ × Record) Bool)
      (fun _ => Drained w₀) (Halted w₀) := by
  have hidle {s : Scene (σ × Record)} (h : Drained w₀ s) : Drained w₀ s.idle :=
    h.imp fun _ h => ⟨h.given, h.script, h.rows⟩
  refine .ensuring (.bind (.attempt (runStatement_drained p)) settle_drained) (fun _ s h => hidle h) ?_
  rintro e s (h | ⟨hsink, texts, sql, h⟩)
  · exact .inl (hidle h)
  · exact .inr ⟨hsink, texts, sql, h.given, h.script, h.rows⟩

private theorem run_drained (sql : String) :
    Ensures (Drained w₀)
      (run session.plain db (watchRows fun _ => pure false)
        (some (watchErrors text (report text))) sql : Act (σ × Record) Nat)
      (fun _ => Drained w₀) (Halted w₀) := by
  have hall (ps : List (List Char)) : Ensures (Drained w₀)
      (runAll session.plain db (watchRows fun _ => pure false)
        (some (watchErrors text (report text))) ps : Act (σ × Record) Nat)
      (fun _ => Drained w₀) (Halted w₀) := by
    induction ps with
    | nil => exact .pure fun _ h => h
    | cons p ps ih =>
      refine (turn_drained p).bind fun refused => ?_
      cases refused with
      | true => exact .pure fun _ h => h
      | false => exact ih
  refine (hall _).bind fun failed => ?_
  split
  · exact .fail fun _ h => .inl h
  · exact .pure fun _ h => h

/-- A watched run that only reads gets all rows of all texts that the engine is given, but for the last
one, where a message about that cannot be written. -/
theorem run_reads (session : Session) (db : Connection) (text : Engine.Error → String) (sql : String)
    (w : World) (own : σ) :
    let r := run session.plain db (watchRows fun _ => pure false) (some (watchErrors text (report text)))
      sql ⟨w, (own, {})⟩
    ∃ texts unread?, r.2.world.given = w.given ++ texts ++ Option.toList unread? ∧
      r.2.own.2.rows = rowsOf w texts ∧ ((∀ f, r.1 = .error f → ¬ f.IsOfSink) → unread? = none) := by
  intro r
  have hends : Act.Ends (fun _ => Drained w) (Halted w) r :=
    run_drained sql ⟨w, (own, {})⟩ ⟨[], by simp, rfl, rfl⟩
  clear_value r
  rcases r with ⟨e | n, s⟩
  · rcases hends with ⟨texts, h⟩ | ⟨hsink, texts, unread, h⟩
    · exact ⟨texts, none, by simpa using h.given, h.rows, fun _ => rfl⟩
    · exact ⟨texts, some unread, by simpa using h.given, h.rows, fun hne => absurd hsink (hne e rfl)⟩
  · obtain ⟨texts, h⟩ := hends
    exact ⟨texts, none, by simpa using h.given, h.rows, fun _ => rfl⟩

end Run
end SqlConsole.Execute

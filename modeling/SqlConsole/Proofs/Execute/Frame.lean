import SqlConsole.Execute.Query
import SqlConsole.Proofs.World.Ensures
import SqlConsole.Proofs.World.Sinks

/-! What a text that is given to the engine leaves as it was, whatever the engine makes of it. -/
namespace SqlConsole

/-- The text that a deed gives to the engine to run, and its bindings, if it does. -/
def Deed.executed? : Deed → Option (String × List Sql.Value)
  | .engine (.execute sql bindings) => some (sql, bindings)
  | _ => none

/-- The session writes to the sink while a text is run. -/
def Session.Listens (session : Session) (k : Sink) : Prop :=
  session.trace = some k ∨ session.log = some k

namespace World

/-- The texts that the engine was given to run, and their bindings, the first one first. -/
def executed (w : World) : List (String × List Sql.Value) :=
  (w.past.filterMap Deed.executed?).reverse

/-- Nothing that is written while a text is run comes into the file. -/
def Spares (w : World) (session : Session) (p : Path) : Prop :=
  ∀ k, session.Listens k → ¬ w.Feeds k p

theorem executed_of_past {w w' : World} {d : Deed} (h : w'.past = d :: w.past) :
    w'.executed = w.executed ++ d.executed?.toList := by
  cases hd : d.executed? <;> simp [executed, h, hd]

/-- What stays as it is when the session writes what it is told. -/
structure Leaves (session : Session) (w w' : World) : Prop where
  executed : w'.executed = w.executed
  target : ∀ id, w'.target? id = w.target? id
  content : ∀ p, w.Spares session p → w'.files.content? p = w.files.content? p

namespace Leaves
variable {session : Session} {w w' w'' : World}

protected theorem refl (session : Session) (w : World) : Leaves session w w :=
  ⟨rfl, fun _ => rfl, fun _ _ => rfl⟩

theorem spares_iff (h : Leaves session w w') (p : Path) :
    w'.Spares session p ↔ w.Spares session p := by
  simp only [Spares, Feeds, h.target]

theorem trans (h : Leaves session w w') (h' : Leaves session w' w'') : Leaves session w w'' where
  executed := h'.executed.trans h.executed
  target id := (h'.target id).trans (h.target id)
  content p hp := (h'.content p ((h.spares_iff p).2 hp)).trans (h.content p hp)

theorem of_stays {k : Sink} (hk : session.Listens k) (h : Stays k w w')
    (hexecuted : w'.executed = w.executed) : Leaves session w w' :=
  ⟨hexecuted, h.target, fun p hp => h.content p (hp k hk)⟩

/-- The past has no part in where text goes and what the files hold. -/
theorem of_past {past : List Deed} (h : ({ w with past } : World).executed = w.executed) :
    Leaves session w { w with past } :=
  ⟨h, fun _ => rfl, fun _ _ => rfl⟩

end Leaves
end World

namespace Execute
open Act
variable {σ : Type} {session : Session} {w : World}

/-- However the action ends, it has given the engine nothing to run, and files that nobody writes to
are as they were. -/
def Frames (session : Session) {α : Type} (x : Act σ α) : Prop :=
  ∀ w, Keeps (fun s => World.Leaves session w s.world) x

namespace Frames
variable {α β : Type} {x : Act σ α}

theorem leaves (h : Frames session x) {s s' : Scene σ} {r : Except Failure α} (hx : x s = (r, s')) :
    World.Leaves session s.world s'.world :=
  (h s.world).apply (.refl session s.world) hx

protected theorem pure (a : α) : Frames session (Pure.pure a : Act σ α) := fun _ => .pure a

theorem fail (e : Failure) : Frames session (Act.fail e : Act σ α) := fun _ => .fail e

theorem bind {f : α → Act σ β} (hx : Frames session x) (hf : ∀ a, Frames session (f a)) :
    Frames session (x >>= f) := fun w => (hx w).bind fun a => hf a w

theorem forM {f : β → Act σ Unit} (hf : ∀ b, Frames session (f b)) (l : List β) :
    Frames session (l.forM f) := fun w => .forM (fun b => hf b w) l

theorem raise (f? : Option Engine.Fault) : Frames session (Act.raise f? : Act σ Unit) :=
  fun _ => .raise f?

theorem world : Frames session (Act.world : Act σ World) := fun _ _ h => h

theorem own : Frames session (Act.own : Act σ σ) := fun _ _ h => h

theorem modifyOwn (f : σ → σ) : Frames session (Act.modifyOwn f) := fun _ _ h => h

theorem modifyWorld {f : World → World} (hf : ∀ w, World.Leaves session w (f w)) :
    Frames session (Act.modifyWorld f : Act σ Unit) := fun _ s h => h.trans (hf s.world)

theorem note {d : Deed} (hd : d.executed? = none) : Frames session (Act.note d : Act σ Unit) :=
  modifyWorld fun w => .of_past (by rw [World.executed_of_past (w := w) rfl, hd]; simp)

theorem flush {k : Sink} (hk : session.Listens k) : Frames session (Act.flush k : Act σ Unit) := by
  intro w s h
  obtain ⟨r, w', hflush, hstays, hpast, hr⟩ := flush_cases k s
  have hw' := h.trans (.of_stays hk hstays (by rw [World.executed, World.executed, hpast]))
  rw [hflush]
  obtain rfl | ⟨fault, rfl, -⟩ := hr <;> exact hw'

theorem write {k : Sink} (hk : session.Listens k) (text : List Char) :
    Frames session (Act.write k text : Act σ Unit) := by
  intro w s h
  obtain ⟨r, w', hwrite, hstays, hr⟩ := write_cases k text s
  have hw' (hpast : w'.past = s.world.past ∨ w'.past = .wrote k (String.ofList text) :: s.world.past) :
      World.Leaves session w w' := by
    refine h.trans (.of_stays hk hstays ?_)
    rcases hpast with hpast | hpast
    · rw [World.executed, World.executed, hpast]
    · simp [World.executed_of_past hpast, Deed.executed?]
  rw [hwrite]
  rcases hr with ⟨rfl, hpast⟩ | ⟨fault, rfl, -, hpast⟩
  · exact hw' (.inr hpast)
  · exact hw' hpast

end Frames

theorem frames_consult (session : Session) (sql : String) :
    Frames session (consult session sql : Act σ Engine.Answer) := by
  refine .bind .world fun w => .bind (.modifyWorld fun _ => ⟨rfl, fun _ => rfl, fun _ _ => rfl⟩)
    fun _ => .bind ?_ fun _ => .bind ?_ fun _ => .pure _
  · unfold tellAll
    split
    · refine .forM (fun notice => ?_) _
      unfold tell
      split
      · exact .pure ()
      · next k hk => exact .bind (.write (.inr hk) _) fun _ => .flush (.inr hk)
    · exact .pure ()
  · unfold permit
    split
    · exact .raise _
    · exact .pure ()

theorem frames_columnCount (session : Session) (sql : String) (bindings : List Sql.Value) :
    Frames session (columnCount session sql bindings : Act σ Nat) :=
  .bind (.note rfl) fun _ => .bind (frames_consult session sql) fun _ => .pure _

theorem frames_trace (session : Session) (db : Connection) (sql : String) :
    Frames session (trace session db sql : Act σ Unit) := by
  unfold trace
  split
  · next hk => exact .write (.inl hk) _
  · exact .pure ()

theorem frames_finish (session : Session) (a : Engine.Answer) :
    Frames session (finish a : Act σ Unit) :=
  .bind (.modifyWorld fun _ => ⟨rfl, fun _ => rfl, fun _ _ => rfl⟩) fun _ => .raise _

/-- What is left as it was, once the text has been noted as given. -/
theorem leaves_perform {db : Connection} {sql : String} {bindings : List Sql.Value}
    {s s' : Scene σ} {r : Except Failure Unit} (h : perform session db sql bindings s = (r, s')) :
    World.Leaves session
      { s.world with past := .engine (.execute sql bindings) :: s.world.past } s'.world := by
  let noted : World := { s.world with past := .engine (.execute sql bindings) :: s.world.past }
  have hends : Ensures (· = s) (perform session db sql bindings)
      (fun _ s' => World.Leaves session noted s'.world)
      (fun _ s' => World.Leaves session noted s'.world) := by
    have hevent : Ensures (· = s) (Act.event (.execute sql bindings) : Act σ Unit)
        (fun _ s' => World.Leaves session noted s'.world)
        (fun _ s' => World.Leaves session noted s'.world) := by
      rintro _ rfl
      exact .refl session noted
    refine .bind (.bind hevent fun _ =>
      ((frames_consult session sql).bind fun _ => (Frames.note rfl).bind fun _ =>
        (frames_trace session db sql).bind fun _ => .pure _) noted) fun a => ?_
    split
    · exact frames_finish session a noted
    · exact .pure fun _ h => h
  have := hends s rfl
  rw [h] at this
  cases r <;> exact this

/-- The engine is given the one text. -/
theorem executed_perform {db : Connection} {sql : String} {bindings : List Sql.Value}
    {s s' : Scene σ} {r : Except Failure Unit} (h : perform session db sql bindings s = (r, s')) :
    s'.world.executed = s.world.executed ++ [(sql, bindings)] := by
  rw [(leaves_perform h).executed, World.executed_of_past (w := s.world) rfl]
  rfl

/-- A file that nobody writes to is as it was. -/
theorem spares_perform {db : Connection} {sql : String} {bindings : List Sql.Value}
    {s s' : Scene σ} {r : Except Failure Unit} (h : perform session db sql bindings s = (r, s'))
    {p : World.Path} (hp : s.world.Spares session p) :
    s'.world.Spares session p ∧ s'.world.files.content? p = s.world.files.content? p :=
  ⟨((leaves_perform h).spares_iff p).2 hp, (leaves_perform h).content p hp⟩

end Execute
end SqlConsole

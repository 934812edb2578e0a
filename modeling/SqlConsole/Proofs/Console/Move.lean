import Mathlib.Logic.Relation
import SqlConsole.Proofs.Console.Dispatched
import SqlConsole.Proofs.Console.Visit

/-! What the console does, one move after the other, and what every move keeps. -/
namespace SqlConsole

/-- The console is in its session, and holds just the sinks that this keeps. Nothing of its past makes no
sense. -/
def Origin.Stands (o : Origin) (s : Scene Console) : Prop := o.Rests s.own.session s

theorem Origin.Rests.stands {o : Origin} {session : Session} {s : Scene Console}
    (h : o.Rests session s) : o.Stands s := by
  obtain ⟨rfl, h⟩ := h
  exact ⟨rfl, h⟩

namespace Console
open Act (Ensures)

/-- One thing that the console does, where the dot lines that it does are of one kind. A line that reads a
file is no move of its own: what is done with the lines of the file is. -/
inductive Move (P : List Char → Prop) : Scene Console → Scene Console → Prop where
  | line {line : List Char} (hP : P line) (hline : ¬ IsReading line)
      (feed : Source → Act Console Outcome) (s : Scene Console) : Move P s (dotLine feed line s).2
  | sql (sql : String) (line? : Option Int) (s : Scene Console) : Move P s (runSql sql line? s).2
  | opened (s : Scene Console) : Move P s (connection s).2
  /-- The user is told or shown something. -/
  | wrote {k : Sink} (hk : k.isStream) (text : String) (s : Scene Console) :
      Move P s (s.noted (.wrote k text))
  /-- The engine is told to stop what it does. -/
  | interrupt {s : Scene Console} (hdb : s.own.db.isSome) : Move P s (s.noted (.engine .interrupt))
  /-- Something is done with the history of lines. -/
  | history {e : Engine.Event} (he : ∀ script l, Links.after script l e = some l) (s : Scene Console) :
      Move P s (s.noted (.engine e))
  /-- An option of the program chooses a setting. -/
  | setting {s : Scene Console} (t : Settings)
      (haside : t.beforeExplain = s.own.session.settings.beforeExplain) :
      Move P s { s with own := { s.own with session := { s.own.session with settings := t } } }
  /-- Something changes that has to do neither with the session nor with the database. -/
  | own {s : Scene Console} (c : Console) (hsession : c.session = s.own.session) (hdb : c.db = s.own.db) :
      Move P s { s with own := c }

/-- One move after the other. -/
def Moves (P : List Char → Prop) : Scene Console → Scene Console → Prop := Relation.ReflTransGen (Move P)

variable {o : Origin} {P : List Char → Prop} {s s' s'' : Scene Console}

/-! Neither SQL nor opening the database changes the session. -/

theorem still_runSql {session : Session} (sql : String) (line? : Option Int) :
    Act.Safe (o.Rests session) (fun _ => True) (runSql sql line?) :=
  safe_runSql (fun _ _ => trivial) (fun _ => trivial) (fun _ => trivial) line?

theorem still_connection {session : Session} :
    Ensures (o.Rests session) connection (fun db s => s.own.db = some db ∧ o.Rests session s)
      (fun _ s => o.Rests session s ∧ True) :=
  ensures_connection fun _ _ => trivial

/-- After every move the console holds just the sinks of its session. -/
theorem Move.stands (h : Move P s s') (hs : o.Stands s) : o.Stands s' := by
  cases h with
  | @line line _ hline feed =>
    refine (ensures_dotLine feed hline _).leads hs ?_ ?_
    · rintro _ t ⟨session', -, ht, -⟩
      exact ht.stands
    · rintro _ t ⟨-, session', -, ht⟩
      exact ht.stands
  | sql sql line? =>
    exact (still_runSql sql line?).leads hs (fun _ _ ht => ht.stands) fun _ _ ht => ht.1.stands
  | opened =>
    exact still_connection.leads hs (fun _ _ ht => Origin.Rests.stands ht.2)
      fun _ _ ht => Origin.Rests.stands ht.1
  | wrote hk text => exact ⟨rfl, hs.2.noted (fun _ => if_pos (.inl hk)) rfl⟩
  | interrupt hdb =>
    refine ⟨rfl, hs.2.event ?_ rfl⟩
    exact if_pos (by rwa [Links.of, Option.isSome_map])
  | history he => exact ⟨rfl, hs.2.event (he _ _) rfl⟩
  | setting t haside => exact ⟨rfl, hs.2⟩
  | own c hsession hdb =>
    refine ⟨rfl, ?_⟩
    show o.Accounts ([] ++ c.session.held) (.of c.db none s.world.script.backups) s.world
    rw [hsession, hdb]
    exact hs.2

namespace Moves

protected theorem refl (s : Scene Console) : Moves P s s := Relation.ReflTransGen.refl

theorem trans (h : Moves P s s') (h' : Moves P s' s'') : Moves P s s'' :=
  Relation.ReflTransGen.trans h h'

theorem single (h : Move P s s') : Moves P s s' := Relation.ReflTransGen.single h

theorem stands (h : Moves P s s') (hs : o.Stands s) : o.Stands s' := by
  induction h with
  | refl => exact hs
  | tail _ hmove ih => exact hmove.stands ih

end Moves

end Console
end SqlConsole

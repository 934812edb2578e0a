import SqlConsole.Proofs.Console.Custody

/-! The connection to the console's database: whether there is one, and what is done to open it. -/
namespace SqlConsole

/-- The scene after the engine has been asked for these things, and nothing else was done. -/
def Scene.asked {σ : Type} (s : Scene σ) (events : List Engine.Event) : Scene σ :=
  { s with world := { s.world with past := (events.map Deed.engine).reverse ++ s.world.past } }

theorem Scene.asked_asked {σ : Type} (s : Scene σ) (a b : List Engine.Event) :
    (s.asked a).asked b = s.asked (a ++ b) := by
  simp [Scene.asked]

/-- What the engine is asked for is not written anywhere. -/
theorem Scene.written_asked {σ : Type} (s : Scene σ) (events : List Engine.Event) (k : Sink) :
    (s.asked events).world.written k = s.world.written k := by
  have hnone : (events.map Deed.engine).reverse.filterMap (Deed.textTo? k) = [] := by
    simp [List.filterMap_eq_nil_iff, Deed.textTo?]
  simp only [World.written, Scene.asked, List.filterMap_append, hnone, List.nil_append]

namespace Act
variable {σ α : Type} {s t : Scene σ}

theorem event_apply (e : Engine.Event) (s : Scene σ) : event e s = (.ok (), s.asked [e]) := rfl

theorem ensuring_event {x : Act σ α} {r : Except Failure α} (hx : x s = (r, t)) (e : Engine.Event) :
    x.ensuring (event e) s = (r, t.asked [e]) := by
  simp only [ensuring, hx, event_apply]

end Act

namespace Console
open Engine (Event)

/-- Whether there is a connection to the console's database, or which one is opened: the name of that
database, and what the engine is asked for. -/
inductive Connects (s : Scene Console) : Except Failure String → List Event → Prop
  | already {db : Connection} (hdb : s.own.db = some db) : Connects s (.ok db.filename) []
  | opened (hdb : s.own.db = none) (hopen : s.world.script.openFault? (mainFile s.own) = none) :
      Connects s (.ok (mainFile s.own)) [.openMain (mainFile s.own) s.own.fileSystem]
  | failed {e : Engine.Error} (hdb : s.own.db = none)
      (hopen : s.world.script.openFault? (mainFile s.own) = some (.error e)) :
      Connects s (.error (.complaint (.cannotOpenDatabase (mainFile s.own) e.message)))
        [.openMain (mainFile s.own) s.own.fileSystem]
  | stopped (hdb : s.own.db = none)
      (hopen : s.world.script.openFault? (mainFile s.own) = some .interrupted) :
      Connects s (.error .interrupted) [.openMain (mainFile s.own) s.own.fileSystem]

/-- To connect is to open the database, if that; the session stays as it is. -/
theorem connection_connects (s : Scene Console) : ∃ r opening t, connection s = (r, t) ∧
    Connects s (r.map (·.filename)) opening ∧ t.world = (s.asked opening).world ∧
    t.own.session = s.own.session := by
  cases hdb : s.own.db with
  | some db =>
    refine ⟨.ok db, [], s, ?_, .already hdb, rfl, rfl⟩
    rw [connection, Act.bind_ok (show Act.own s = (.ok s.own, s) from rfl), hdb]
    rfl
  | none =>
    rw [connection_apply hdb]
    cases hopen : s.world.script.openFault? (mainFile s.own) with
    | none => exact ⟨_, _, _, rfl, .opened hdb hopen, rfl, rfl⟩
    | some f =>
      cases f with
      | error e => exact ⟨_, _, _, rfl, .failed hdb hopen, rfl, rfl⟩
      | interrupted => exact ⟨_, _, _, rfl, .stopped hdb hopen, rfl, rfl⟩

/-- To connect gives the engine no text. -/
theorem Connects.given_asked {s : Scene Console} {opening : List Event} {r : Except Failure String}
    (h : Connects s r opening) : (s.asked opening).world.given = s.world.given := by
  cases h <;> rfl

theorem Connects.of_asked {s : Scene Console} {events opening : List Event} {r : Except Failure String}
    (h : Connects (s.asked events) r opening) : Connects s r opening := by
  cases h with
  | already hdb => exact .already hdb
  | opened hdb hopen => exact .opened hdb hopen
  | failed hdb hopen => exact .failed hdb hopen
  | stopped hdb hopen => exact .stopped hdb hopen

/-- Nothing but the connection is new: no text has been written, or given to the engine. -/
structure Connected (s t : Scene Console) : Prop where
  session : t.own.session = s.own.session
  script : t.world.script = s.world.script
  taking : t.world.taking = s.world.taking
  target : ∀ id, t.world.target? id = s.world.target? id
  written : ∀ k, t.world.written k = s.world.written k
  given : t.world.given = s.world.given

theorem exists_connected {s : Scene Console} {db : Connection} (hdb : (connection s).1 = .ok db) :
    ∃ t, connection s = (.ok db, t) ∧ Connected s t := by
  obtain ⟨r, opening, t, hconnection, hconnects, hworld, hsession⟩ := connection_connects s
  obtain rfl : r = .ok db := by simpa [hconnection] using hdb
  refine ⟨t, hconnection, hsession, ?_, ?_, ?_, ?_, ?_⟩ <;> rw [hworld]
  · rfl
  · rfl
  · exact fun _ => rfl
  · exact s.written_asked opening
  · exact hconnects.given_asked

end Console
end SqlConsole

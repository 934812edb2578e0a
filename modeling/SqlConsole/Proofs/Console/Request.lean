import SqlConsole.Proofs.Console.Roaming

/-! What the console can be asked for, one thing after the other, and where that leads. -/
namespace SqlConsole

/-- A run that starts in a scene. -/
def Origin.of (s : Scene Console) : Origin where
  script := s.world.script
  taking := s.world.taking
  links := .of s.own.db none s.world.script.backups

namespace Console

/-- Nothing has been done yet. The session is one with whatever settings, and there may be a database. -/
structure IsFresh (s : Scene Console) : Prop where
  past : s.world.past = []
  handles : s.world.handles = []
  output : s.own.session.output = .stdout
  trace : s.own.session.trace = none
  log : s.own.session.log = none

theorem IsFresh.stands {s : Scene Console} (h : IsFresh s) : (Origin.of s).Stands s := by
  have hheld : s.own.session.held = [] := by
    rw [Session.held, h.output, h.trace, h.log]
    rfl
  refine ⟨rfl, ?_⟩
  rw [hheld]
  refine ⟨⟨[], [], [], ⟨.refl _, by simp, by simp, fun hne => absurd rfl hne⟩, ?_⟩, rfl, .refl _, rfl⟩
  rw [h.past, h.handles]
  rfl

theorem isFresh_untouched : IsFresh untouched := ⟨rfl, rfl, rfl, rfl, rfl⟩

/-- Something that the console is asked for. -/
inductive Request where
  | command (line : List Char)
  | text (t : String)
  | query (sql : String) (line? : Option Int)
  | input (interactive : Bool) (items : List Item)
  | interrupt (interactive : Bool)
  | loop (greeting? : Option String) (ownInput : Bool) (items : List Item)
  /-- The first pass over the arguments of the program, with what has been found before. -/
  | places (p : Places) (l : List String)
  | database (name : String)
  | setUp (file? : Option String)
  /-- The second pass over the arguments. -/
  | options (l : List String)
  | arguments (l : List String)

def Request.perform : Request → Act Console Unit
  | command line => discard (dotLine readSource line)
  | text t => discard (runText t)
  | query sql line? => discard (runSql sql line?)
  | input interactive items => discard (readInput interactive items)
  | interrupt interactive => Console.interrupt interactive
  | loop greeting? ownInput items => discard (mainLoop greeting? ownInput items)
  | places p l => discard (findPlaces p l)
  | database name => nameDatabase name
  | setUp file? => Console.setUp file?
  | options l => applyOptions l
  | arguments l => discard (processArguments l)

/-- All dot lines that are done for the request are of one kind. -/
def Request.Only (P : List Char → Prop) (s : Scene Console) : Request → Prop
  | command line => Follows P line s
  | text t => t.toList.head? = some '.' → Follows P t.toList s
  | query _ _ => True
  | input interactive items => (Place.start interactive items s).Only P
  | interrupt _ => True
  | loop greeting? ownInput items =>
    (Place.start s.own.interactive items (welcome greeting? ownInput s).2).Only P
  | places _ _ => True
  | database _ => True
  | setUp _ => ∀ line, P line
  | options _ => ∀ line, P line
  | arguments _ => ∀ line, P line

variable {P : List Char → Prop} {s t : Scene Console}

theorem Request.only_of_forall (hP : ∀ line, P line) (r : Request) : r.Only P s := by
  cases r with
  | command line => exact follows_of_forall hP line s
  | text t => exact fun _ => follows_of_forall hP _ s
  | input | loop => exact fun _ _ _ _ _ _ _ _ => hP _
  | query | interrupt | places | database => trivial
  | setUp | options | arguments => exact hP

theorem Request.roams {o : Origin} {r : Request} (hs : o.Stands s) (hr : r.Only P s) :
    Roams o P s r.perform := by
  cases r with
  | command line => exact (roams_dotLine hs hr).discard
  | text t => exact (roams_runText hs hr).discard
  | query sql line? => exact (roams_runSql hs sql line?).discard
  | input interactive items => exact (roams_readInput hs hr).discard
  | interrupt interactive => exact roams_interrupt interactive
  | loop greeting? ownInput items => exact (roams_mainLoop hs hr).discard
  | places p l => exact (roaming_findPlaces p l).roams.discard
  | database name => exact (roaming_nameDatabase hs name).roams
  | setUp file? => exact (roaming_setUp hs hr file?).roams
  | options l => exact (roaming_applyOptions hs hr l).roams
  | arguments l => exact (roaming_processArguments hs hr l).roams.discard

/-- Requests one after the other, where all dot lines that are done are of one kind. An input may be left at
any place that reading it comes to, also in a file that a line there asks for and where a line is about to
be done, and it may be taken up at any place. -/
inductive Inputs (P : List Char → Prop) (s : Scene Console) : Scene Console → Prop where
  | nothing : Inputs P s s
  | request {t : Scene Console} (h : Inputs P s t) (r : Request) (hr : r.Only P t) :
      Inputs P s (r.perform t).2
  | visited {p q : Place} {trail : List Nat} (h : Inputs P s p.scene) (hp : p.Only P)
      (hvisits : Visits p trail q) : Inputs P s q.scene
  | finished {p : Place} (h : Inputs P s p.scene) (hp : p.Only P) : Inputs P s p.read.2
  | asked {p : Place} {line : List Char} {r : Reading} {rest : Input} {t : Scene Console}
      (h : Inputs P s p.scene) (hasks : p.Asks (.command line) r rest t) : Inputs P s (echoed line t)

theorem Inputs.moves {o : Origin} (h : Inputs P s t) (hs : o.Stands s) : Moves P s t := by
  induction h with
  | nothing => exact .refl s
  | request _ r hr ih => exact ih.trans (r.roams (ih.stands hs) hr).1
  | visited _ hp hvisits ih => exact ih.trans (hvisits.moves hp)
  | finished _ hp ih => exact ih.trans hp.moves
  | asked _ hasks ih => exact ih.trans (hasks.moves.trans (moves_echoed _))

/-- The scene is one that the console can come to from where nothing has been done yet. -/
structure Run (s₀ s : Scene Console) : Prop where
  fresh : IsFresh s₀
  inputs : Inputs (fun _ => True) s₀ s

namespace Run
variable {s₀ : Scene Console}

theorem moves (h : Run s₀ s) : Moves (fun _ => True) s₀ s := h.inputs.moves h.fresh.stands

/-- Wherever the console comes to just the sinks of its session are open. -/
theorem stands (h : Run s₀ s) : (Origin.of s₀).Stands s := h.moves.stands h.fresh.stands

end Run

end Console
end SqlConsole

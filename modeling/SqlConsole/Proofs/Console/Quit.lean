import SqlConsole.Proofs.Console.Bail
import SqlConsole.Proofs.Console.Dispatched
import SqlConsole.Proofs.Console.SetUp

/-! Lines that ask to quit. It is the input that the line is from that ends there; an input that asked for
that one is not told, and goes on. -/
namespace SqlConsole.Console

variable {p q f : Place} {line : List Char} {s s' : Scene Console}

/-- The line asks to quit, and with no code that the program would have to end with at once. -/
inductive Quits (line : List Char) : Prop where
  | quit {arguments : List String} (h : Means line .quit arguments)
  | exit {arguments : List String} (h : Means line .exit arguments)
      (hcode : ∀ a ∈ arguments.head?, Text.leadingInt a.toList = .ok 0)

/-- What an input comes to that ends with no SQL left over. -/
def tally (errors : Nat) : Outcome := if errors = 0 then .success else .error

theorem tally_ne_stop (errors : Nat) : tally errors ≠ .stop := by
  unfold tally
  split <;> nofun

theorem Quits.dotLine_eq (h : Quits line) (feed : Source → Act Console Outcome) (s : Scene Console) :
    dotLine feed line s = (.ok .stop, s) := by
  cases h with
  | quit h => rw [dotLine_of_means h]; rfl
  | @exit arguments h hcode =>
    rw [dotLine_of_means h]
    cases arguments with
    | nil => rfl
    | cons a arguments =>
      have ha : integerArgument a = pure 0 := by
        unfold integerArgument
        rw [hcode a rfl]
      show reported (do
        let code ← integerArgument a
        if code = 0 then pure .stop else Act.fail (.exit code)) s = _
      rw [ha]
      rfl

theorem Quits.commandLine_eq (h : Quits line) (feed : Source → Act Console Outcome)
    (s : Scene Console) : commandLine feed line s = (.ok .stop, echoed line s) := by
  rw [Console.commandLine_eq, h.dotLine_eq]

theorem echoed_own (line : List Char) (s : Scene Console) : (echoed line s).own = s.own := by
  unfold echoed
  split <;> rfl

theorem conclude_of_tally {r : Reading} (hbuffer : r.buffer = []) :
    conclude r s = (.ok (tally r.errors), s) := by
  unfold conclude tally
  rw [hbuffer]
  rfl

/-- The scene in which one more line is asked for at the keyboard. -/
def prompted (r : Reading) (s : Scene Console) : Scene Console :=
  { s with own := { s.own with interrupted := false } }.noted (.wrote .stdout
    (if r.buffer.isEmpty then s.own.session.settings.mainPrompt
      else s.own.session.settings.continuePrompt))

/-- Interactive input is asked for whatever has happened. -/
theorem isReady_interactive (r : Reading) (s : Scene Console) :
    isReady true r s = (.ok true, prompted r s) := by
  unfold isReady
  rw [Act.bind_ok (show Act.own s = (.ok s.own, s) from rfl)]
  simp only [Bool.not_true, Bool.and_false, Bool.false_eq_true, if_false]
  show (Except.ok true, Scene.noted (.wrote .stdout (String.ofList _)) _) = _
  rw [String.ofList_toList]
  rfl

/-- One more line is asked for, unless the user has stopped the input or there was an error where the
session says that an error ends input. -/
private theorem exists_isReady (hi : p.scene.own.interrupted = false)
    (h : p.interactive = true ∨ p.reading.errors = 0 ∨ bails p.scene = false) :
    ∃ s, p.IsReady s := by
  unfold Place.IsReady
  cases hp : p.interactive with
  | true => exact ⟨_, isReady_interactive _ _⟩
  | false => exact ⟨_, isReady_of_ready ⟨h.resolve_left (by simp [hp]), hi⟩⟩

/-- The input that the line is from ends behind the line. -/
theorem Place.Asks.quits {r : Reading} {rest : Input} (hasks : q.Asks (.command line) r rest s)
    (hquits : Quits line) : Closes q (.ok (tally q.reading.errors), echoed line s) := by
  have hcloses := Closes.stopped hasks (hquits.commandLine_eq q.feed s)
  obtain ⟨herrors, -, hbuffer, -⟩ := hasks.continues
  rwa [conclude_of_tally hbuffer, herrors] at hcloses

/-- Where a file has come to its end the input that asked for it is behind the line that did. -/
theorem Opens.follows {errors : Nat} (hopens : Opens p f) (hread : f.read = (.ok (tally errors), s')) :
    ∃ j p', Step p (some (j, tally errors)) p' ∧ p'.scene = s' ∧ p'.reading.buffer = [] := by
  obtain ⟨j, r, rest, s, hasks, hjob⟩ := hopens.does hread
  refine ⟨j, _, .done hasks hjob (tally_ne_stop errors), rfl, ?_⟩
  show (r.after (tally errors)).2.buffer = []
  unfold tally
  split <;> exact hasks.continues.2.2.1

/-- A line that asks to quit ends the input that it is from, and no other. If a line of another input asked
for that file, that input goes on with its next line, as if the file had come to its end by itself; and if
the file was the one that sets the program up, all that the program was started for is run. -/
theorem quit_ends_one_input {r : Reading} {rest : Input} (hasks : q.Asks (.command line) r rest s)
    (hquits : Quits line) :
    Closes q (.ok (tally q.reading.errors), echoed line s) ∧
      (∀ p f l, Opens p f → Course f l q →
        ∃ j p', Step p (some (j, tally q.reading.errors)) p' ∧ p'.scene = echoed line s ∧
          (p.interactive = true ∨ p'.reading.errors = 0 ∨ bails (echoed line s) = false →
            ∃ t, p'.IsReady t)) ∧
      (∀ source s₀ l arguments input, Course (.opened 328 source s₀) l q →
        (readSource source >>= afterSetUp arguments input) s₀ =
          afterSetUp arguments input (tally q.reading.errors) (echoed line s)) := by
  have hcloses := hasks.quits hquits
  refine ⟨hcloses, fun p f l hopens hcourse => ?_, fun source s₀ l arguments input hcourse => ?_⟩
  · have hq : q.interactive = false := hcourse.interactive_eq.trans hopens.interactive_eq
    obtain ⟨⟨-, hi⟩, rfl⟩ := hasks.ready hq
    obtain ⟨j, p', hstep, hscene, -⟩ := hopens.follows (hcourse.read_eq.trans hcloses.read_eq)
    refine ⟨j, p', hstep, hscene, fun h => exists_isReady (by rwa [hscene, echoed_own]) ?_⟩
    rwa [hscene, hstep.frame.2.1]
  · have hread : readSource source s₀ = (.ok (tally q.reading.errors), echoed line s) := by
      rw [readSource, maxDepth, ← Place.read_opened]
      exact hcourse.read_eq.trans hcloses.read_eq
    exact Act.bind_ok hread _

/-- A file that does nothing but quit, which is also the one that sets the program up. -/
def quitting : Scene Console :=
  ⟨{ files := (({} : World.Files).add (World.workingFolder ++ ["f"]) (Text.utf8 ".quit\n".toList)).add
      (World.workingFolder ++ ["home", ".sqliterc"]) (Text.utf8 ".quit\n".toList) }, {}⟩

def quittingSource : Source := { path := World.workingFolder ++ ["f"], reader := { ends := .unified } }

private theorem asks_quitting :
    ∃ rest, (Place.opened 328 quittingSource quitting).Asks (.command ".quit".toList) { lines := 1 }
      rest quitting := by
  let bytes := (quitting.world.files.content? quittingSource.path).getD []
  have hline : quittingSource.reader.line? bytes =
      some (".quit\n".toList, { quittingSource.reader with passed := 6 }) := by decide +kernel
  have hinput : (Place.opened 328 quittingSource quitting).input =
      .file (6 + 99999 + 1) quittingSource := by
    have hbytes : bytes.length = 6 := by decide +kernel
    show Input.file (bytes.length + _) _ = _
    rw [hbytes]
    rfl
  have hfetch : (Input.file (6 + 99999 + 1) quittingSource).fetch quitting.world = _ :=
    Input.fetch_file hline
  rw [← hinput] at hfetch
  exact ⟨_, _, ⟨isReady_of_ready ⟨.inl rfl, rfl⟩, hfetch⟩, rfl⟩

/-- The file ends with its first line, and the input that asked for it asks for its next one. -/
theorem quit_ends_one_input_file :
    let p : Place := .start false (inputOfText ".read f\n.print x\n".toList) quitting
    let q : Place := .opened 328 quittingSource quitting
    (∃ rest, q.Asks (.command ".quit".toList) { lines := 1 } rest quitting) ∧
      Quits ".quit".toList ∧ Opens p q ∧ Closes q (.ok .success, quitting) ∧
      ∃ j p', Step p (some (j, .success)) p' ∧ p'.scene = quitting ∧ ∃ t, p'.IsReady t := by
  intro p q
  obtain ⟨rest, hasks⟩ := asks_quitting
  have hquits : Quits ".quit".toList := .quit ⟨"quit", rfl, rfl⟩
  have hread : p.Asks (.command ".read f".toList) { lines := 1 }
      (.items false [.line ".print x\n".toList]) quitting :=
    ⟨".read f\n".toList, ⟨isReady_of_ready ⟨.inl rfl, rfl⟩, rfl⟩, rfl⟩
  have hrequests : Requests ".read f".toList quitting quittingSource quitting :=
    ⟨"read", ["f"], rfl, rfl, rfl⟩
  have hopens : Opens p q := .mk hread hrequests rfl
  obtain ⟨hcloses, hgoes, -⟩ := quit_ends_one_input hasks hquits
  obtain ⟨j, p', hstep, hscene, hready⟩ := hgoes p q [] hopens (.here q)
  exact ⟨⟨rest, hasks⟩, hquits, hopens, hcloses, j, p', hstep, hscene, hready (.inr (.inr rfl))⟩

/-- The line behind the one that reads the file is run, and so is the program's input behind the file that
sets it up. Where the input asks to quit itself nothing more of it is run. -/
theorem quitting_goes_on :
    let written (s : Scene Console) : List String := s.world.written .stdout
    quitting.world.files.content? (World.workingFolder ++ ["f"]) = some (Text.utf8 ".quit\n".toList) ∧
      written (readInput false (inputOfText ".read f\n.print x\n".toList) quitting).2 = ["x\n"] ∧
      written (program ["-batch"] ".print x\n".toList quitting).2 = ["x\n"] ∧
      written (readInput false (inputOfText ".quit\n.print x\n".toList) quitting).2 = [] := by
  decide +kernel

end SqlConsole.Console

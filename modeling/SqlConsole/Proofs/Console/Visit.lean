import SqlConsole.Proofs.Console.Place

/-! Reading that goes into the files that lines ask for, and into the files that those ask for. -/
namespace SqlConsole.Console

/-- The scene in which a line has been shown, if the session says so. -/
def echoed (line : List Char) (s : Scene Console) : Scene Console :=
  if s.own.session.settings.echo then s.noted (.wrote .stdout (String.ofList (line ++ ['\n']))) else s

theorem commandLine_eq (feed : Source → Act Console Outcome) (line : List Char) (s : Scene Console) :
    commandLine feed line s = dotLine feed line (echoed line s) := by
  unfold commandLine echoed
  rw [Act.bind_ok (show Act.own s = (.ok s.own, s) from rfl)]
  split <;> rfl

/-- The line is the command to read a file, which can be opened. -/
structure Requests (line : List Char) (s : Scene Console) (source : Source) (s' : Scene Console) :
    Prop where
  opens : ∃ typed arguments, (Command.words line).map String.ofList = typed :: arguments ∧
    Command.find? typed arguments.length = some .read ∧
    Act.openSource? (arguments.headD "") .unified (echoed line s) = (.ok (some source), s')

/-- The command comes to what reading the file comes to. -/
theorem Requests.commandLine_eq {feed : Source → Act Console Outcome} {line : List Char}
    {s s' s'' : Scene Console} {source : Source} {o : Outcome} (h : Requests line s source s')
    (hfeed : feed source s' = (.ok o, s'')) : commandLine feed line s = (.ok o, s'') := by
  obtain ⟨typed, arguments, hwords, hfind, hopen⟩ := h.opens
  have hread : runCommand feed .read arguments (echoed line s) = (.ok o, s'') :=
    (Act.bind_ok hopen _).trans hfeed
  rw [Console.commandLine_eq, dotLine, hwords]
  dsimp only
  rw [hfind]
  refine (Act.bind_ok (show Act.attempt _ _ = (.ok (.ok o), s'') from ?_) _).trans rfl
  rw [Act.attempt, hread]

/-- The next line at a place opens a file, and this is the start of that. -/
inductive Opens (p : Place) : Place → Prop where
  | mk {depth : Nat} {line : List Char} {r : Reading} {rest : Input} {s s' : Scene Console}
      {source : Source} (hasks : p.Asks (.command line) r rest s)
      (hrequests : Requests line s source s') (hdepth : p.depth = depth + 1) :
      Opens p (.opened depth source s')

/-- Reading comes from one place to another, in the same input or in a file on the way. The trail
tells how many lines were read in each input before the one that opened the next. -/
inductive Visits : Place → List Nat → Place → Prop where
  | here (p : Place) : Visits p [] p
  | step {p q q' : Place} {done? : Option (Job × Outcome)} {trail : List Nat} (h : Step p done? q)
      (hrest : Visits q trail q') : Visits p trail q'
  | opened {p q q' : Place} {trail : List Nat} (h : Opens p q) (hrest : Visits q trail q') :
      Visits p (p.reading.lines :: trail) q'

variable {p q : Place}

/-- Only the first input can be interactive. -/
theorem Opens.interactive_eq (h : Opens p q) : q.interactive = false := by
  cases h
  rfl

/-- What the file comes to is what the line comes to that opens it. -/
theorem Opens.does {o : Outcome} {s : Scene Console} (h : Opens p q) (hread : q.read = (.ok o, s)) :
    ∃ j, p.Does j o s := by
  obtain ⟨hasks, hrequests, hdepth⟩ := h
  refine ⟨_, _, _, _, hasks, ?_⟩
  apply hrequests.commandLine_eq
  rwa [Place.feed, hdepth, ← Place.read_opened]

end SqlConsole.Console

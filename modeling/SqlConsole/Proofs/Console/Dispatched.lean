import SqlConsole.Proofs.Console.Conduct

/-! Dot lines by the command that they mean: what each line may change in the session, and what it ends
in. -/
namespace SqlConsole.Console
open Act (Ensures)

/-- The line means the command, with these arguments. -/
def Means (line : List Char) (command : Command) (arguments : List String) : Prop :=
  ∃ typed, (Command.words line).map String.ofList = typed :: arguments ∧
    Command.find? typed arguments.length = some command

/-- The line is one to read a file. -/
def IsReading (line : List Char) : Prop := ∃ arguments, Means line .read arguments

variable {line : List Char} {command command' : Command} {arguments arguments' : List String}
  {feed : Source → Act Console Outcome}

theorem Means.unique (h : Means line command arguments)
    (h' : Means line command' arguments') : command = command' ∧ arguments = arguments' := by
  obtain ⟨typed, hwords, hfind⟩ := h
  obtain ⟨typed', hwords', hfind'⟩ := h'
  cases hwords.symm.trans hwords'
  cases hfind.symm.trans hfind'
  exact ⟨rfl, rfl⟩

theorem Means.ne_read (h : Means line command arguments) (hline : ¬ IsReading line) :
    command ≠ .read := by
  rintro rfl
  exact hline ⟨arguments, h⟩

/-- The user is told of a failure that has a message. -/
def reported (x : Act Console Outcome) : Act Console Outcome := do
  match ← Act.attempt x with
  | .ok outcome => pure outcome
  | .error f =>
    match f.message? with
    | some message => do
      writeError ("Error: " ++ message ++ "\n")
      pure .error
    | none => Act.fail f

theorem dotLine_of_means (h : Means line command arguments) :
    dotLine feed line = reported (runCommand feed command arguments) := by
  obtain ⟨typed, hwords, hfind⟩ := h
  unfold dotLine
  rw [hwords]
  dsimp only
  rw [hfind]
  rfl

/-- A line that means no command is empty but for the dot, or the user is told. -/
theorem dotLine_of_not_means (feed : Source → Act Console Outcome)
    (h : ∀ command arguments, ¬ Means line command arguments) :
    dotLine feed line = pure .success ∨
      ∃ text, dotLine feed line = (do writeError text; pure .error) := by
  unfold dotLine
  rcases hwords : (Command.words line).map String.ofList with _ | ⟨typed, arguments⟩
  · exact .inl rfl
  · right
    dsimp only
    cases hfind : Command.find? typed arguments.length with
    | none => exact ⟨_, rfl⟩
    | some command => exact absurd ⟨typed, hwords, hfind⟩ (h command arguments)

/-- What the line may change in the session. -/
inductive LineAlters (line : List Char) (session : Session) : Session → Prop where
  | nothing : LineAlters line session session
  | command {session' : Session} {command : Command} {arguments : List String}
      (hline : Means line command arguments)
      (halters : Alters command arguments session session') : LineAlters line session session'

/-- What an error spares of the session: the settings, and the sinks unless the line chooses where text
goes. -/
structure Spares (line : List Char) (session session' : Session) : Prop where
  settings : session'.settings = session.settings
  sinks : (∀ command ∈ directing, ∀ arguments, ¬ Means line command arguments) → session' = session

/-- What may come out of a line that means a command which has failed with it. -/
def LineEscapes (o : Origin) (line : List Char) (f : Failure) : Prop :=
  f.message? = none ∧ ∃ command arguments, Means line command arguments ∧ MayFail o command arguments f

variable {o : Origin} {session : Session}

theorem ensures_writeError {E : Failure → Scene Console → Prop} (text : String) :
    Ensures (o.Rests session) (writeError text) (fun _ => o.Rests session) E :=
  Ensures.mono (safe_writeError (F := fun _ => False) text) (fun _ hs => hs) (fun _ _ hs => hs)
    fun _ _ hs => hs.2.elim

/-- How a line ends, where the console was in a session. -/
def LineDone (o : Origin) (line : List Char) (session : Session) (outcome : Outcome)
    (s : Scene Console) : Prop :=
  ∃ session', LineAlters line session session' ∧ o.Rests session' s ∧
    (outcome = .error → Spares line session session')

/-- How a line fails, where the console was in a session. -/
def LineFailed (o : Origin) (line : List Char) (session : Session) (f : Failure)
    (s : Scene Console) : Prop :=
  LineEscapes o line f ∧ ∃ session', LineAlters line session session' ∧ o.Rests session' s

/-- A line that reads no file. -/
theorem ensures_dotLine (feed : Source → Act Console Outcome) (hline : ¬ IsReading line)
    (session : Session) :
    Ensures (o.Rests session) (dotLine feed line) (LineDone o line session)
      (LineFailed o line session) := by
  have htold {session' : Session} (text : String) (halters : LineAlters line session session')
      (hspares : Spares line session session') :
      Ensures (o.Rests session') (do writeError text; pure Outcome.error) (LineDone o line session)
        (LineFailed o line session) :=
    .bind (ensures_writeError _) fun _ => .pure fun _ hs => ⟨session', halters, hs, fun _ => hspares⟩
  by_cases hmeans : ∃ command arguments, Means line command arguments
  · obtain ⟨command, arguments, hmeans⟩ := hmeans
    rw [dotLine_of_means hmeans]
    refine .bind (.attempt (Q := fun ending s => ∃ session',
      (Alters command arguments session session' ∧ o.Rests session' s) ∧ match ending with
        | .ok outcome => outcome ≠ .error
        | .error f => MayFail o command arguments f ∧ (f.message?.isSome →
          session'.settings = session.settings ∧ (command ∉ directing → session' = session)))
      ((obeys_runCommand feed (hmeans.ne_read hline) session).mono (fun _ hs => hs) ?_ ?_))
        fun ending => ?_
    · rintro outcome s ⟨houtcome, session', halters, hs⟩
      exact ⟨session', ⟨halters, hs⟩, houtcome⟩
    · rintro f s ⟨hf, session', hs, htold⟩
      exact ⟨session', hs, hf, htold⟩
    · rintro s ⟨session', ⟨halters, hs⟩, hending⟩
      have halters := LineAlters.command hmeans halters
      cases ending with
      | ok outcome => exact ⟨session', halters, hs, fun h => absurd h hending⟩
      | error f =>
        dsimp only
        cases hmessage : f.message? with
        | none => exact ⟨⟨hmessage, command, arguments, hmeans, hending.1⟩, session', halters, hs⟩
        | some message =>
          obtain ⟨hsettings, hsame⟩ := hending.2 (by rw [hmessage]; rfl)
          refine htold _ halters ⟨hsettings, fun h => hsame fun hmem => ?_⟩ s hs
          exact h command hmem arguments hmeans
  · have hmeans : ∀ command arguments, ¬ Means line command arguments :=
      fun command arguments h => hmeans ⟨command, arguments, h⟩
    rcases dotLine_of_not_means feed hmeans with heq | ⟨text, heq⟩ <;> rw [heq]
    · exact .pure fun _ hs => ⟨session, .nothing, hs, nofun⟩
    · exact htold text .nothing ⟨rfl, fun _ => rfl⟩

end SqlConsole.Console

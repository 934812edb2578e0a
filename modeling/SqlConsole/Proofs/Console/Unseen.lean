import SqlConsole.Proofs.Console.Oblivious
import SqlConsole.Proofs.Console.Request
import SqlConsole.Proofs.Console.Steady

/-! Commands that look at a database or copy it leave the console as it was. They show what they find in
layouts of their own, and nobody sees anything of those later. -/
namespace SqlConsole.Console
open Act (Oblivious Respects)
open Scene (Related Twins)

/-- Commands that look at the database or at the console, copy databases or turn to the engine. -/
def introspecting : List Command :=
  [.databases, .indices, .schema, .tables, .dump, .show_, .help, .version, .vfsname, .print, .backup,
    .restore, .import_, .load, .timeout, .testctrl]

/-- The scene as it was before, but for what the engine will say, the files, and the connection: those are as
they are later. -/
def resumed (s t : Scene Console) : Scene Console where
  world := { t.world with
    past := s.world.past
    logging := s.world.logging
    statement := s.world.statement }
  own := { s.own with db := t.own.db, filename := t.own.filename }

/-- The action ends alike from both scenes, and does the same things there. -/
def Alike {α : Type} (x : Act Console α) (s t : Scene Console) : Prop :=
  (x s).1 = (x t).1 ∧ ∃ done, (x s).2.world.past = done ++ s.world.past ∧
    (x t).2.world.past = done ++ t.world.past

variable {line : List Char} {command : Command} {arguments : List String} {s s₀ t : Scene Console}
  {session session' : Session}

private theorem introspecting_apart :
    ∀ command ∈ introspecting, command ∉ choosing ∧ command ∉ directing ∧
      command ≠ .explain ∧ command ≠ .read := by
  decide

theorem Alters.eq_of_introspecting (h : Alters command arguments session session')
    (hcommand : command ∈ introspecting) : session' = session := by
  obtain ⟨hchoosing, hdirecting, hexplain, -⟩ := introspecting_apart command hcommand
  cases h with
  | nothing => rfl
  | settings t hmem => exact absurd hmem hchoosing
  | explain on heq => exact absurd heq hexplain
  | sinks hmem => exact absurd hmem hdirecting

/-- What the line leaves alone in the console, besides the session. -/
private theorem keeps_rest (feed : Source → Act Console Outcome) (hline : Means line command arguments)
    (hcommand : command ∈ introspecting) (s : Scene Console) :
    Act.Keeps (fun t => (t.world.logging = s.world.logging ∧ t.world.statement = s.world.statement) ∧
      t.own = { s.own with session := t.own.session, db := t.own.db, filename := t.own.filename } ∧ True)
      (dotLine feed line) := by
  have hA : Accord (fun _ => True)
      (Still fun logging statement => logging = s.world.logging ∧ statement = s.world.statement)
      (fun c => c = { s.own with session := c.session, db := c.db, filename := c.filename })
      fun db? db?' => db?' = db? ∧ True :=
    .still (fun c t h => by rw [h]) (fun c filename db? h => by rw [h]) fun _ _ => trivial
  refine keeps_still (hA.dotLine fun command' arguments' hmeans => ?_)
  obtain ⟨rfl, rfl⟩ := hline.unique hmeans
  obtain ⟨-, hdirecting, -, hread⟩ := introspecting_apart command hcommand
  exact hA.runCommand feed hdirecting hread arguments

theorem alike_of_oblivious {α : Type} {x : Act Console α} (hx : Oblivious x)
    (h : Twins (fun _ _ => True) s t) :
    Alike x s t := by
  have hT : Lasting fun past past' => ∃ done, past = done ++ s.world.past ∧ past' = done ++ t.world.past := by
    rintro d past past' ⟨done, rfl, rfl⟩
    exact ⟨d :: done, rfl, rfl⟩
  obtain ⟨past, -⟩ := h
  obtain ⟨hend, htwins⟩ := hx.agrees hT s (s.withPast past) (.mk past ⟨[], rfl, rfl⟩)
  exact ⟨hend, htwins.past⟩

/-- A command that looks at the database or copies it leaves all of the session as it was, in whatever way
it ends, and the statement that is run. So whatever input comes later, and whatever SQL text is run: that
ends and does the same as from the console as it was before the command, with the database and the files as
they are then. -/
theorem Run.introspection_unseen {ending : Except Failure Outcome} (feed : Source → Act Console Outcome)
    (hrun : Run s₀ s) (hline : Means line command arguments) (hcommand : command ∈ introspecting)
    (hdone : dotLine feed line s = (ending, t)) :
    t.own.session = s.own.session ∧ t.world.statement = s.world.statement ∧
      (∀ sql line?, Alike (runSql sql line?) t (resumed s t)) ∧
      ∀ interactive items, Alike (readInput interactive items) t (resumed s t) := by
  have hsession : t.own.session = s.own.session := by
    have hread : ¬ IsReading line := fun ⟨_, hmeans⟩ =>
      (introspecting_apart command hcommand).2.2.2 (hline.unique hmeans).1
    have hsame {session' : Session} (h : LineAlters line s.own.session session') :
        session' = s.own.session := by
      cases h with
      | nothing => rfl
      | command hmeans halters =>
        obtain ⟨rfl, rfl⟩ := hline.unique hmeans
        exact halters.eq_of_introspecting hcommand
    have hends := ensures_dotLine feed hread s.own.session s hrun.stands
    rw [hdone] at hends
    rcases ending with f | outcome
    · obtain ⟨-, session', halters, hs⟩ := hends
      exact hs.1.trans (hsame halters)
    · obtain ⟨session', halters, hs, -⟩ := hends
      exact hs.1.trans (hsame halters)
  obtain ⟨⟨hlogging, hstatement⟩, hown, -⟩ :=
    (keeps_rest feed hline hcommand s).apply ⟨⟨rfl, rfl⟩, rfl, trivial⟩ hdone
  -- the scene is the one that it would be resumed in, but for the past
  have htwins : Twins (fun _ _ => True) t (resumed s t) := by
    have heq : resumed s t = t.withPast s.world.past := by
      rw [hsession] at hown
      unfold resumed Scene.withPast
      rw [← hlogging, ← hstatement]
      exact congrArg (Scene.mk _) hown.symm
    rw [heq]
    exact .mk _ trivial
  exact ⟨hsession, hstatement, fun sql line? => alike_of_oblivious (oblivious_runSql sql line?) htwins,
    fun interactive items => alike_of_oblivious (oblivious_readInput interactive items) htwins⟩

/-- Rows are to be shown as records, and the engine fails behind the first database that it lists. -/
def failing : Scene Console where
  world := { script := { answers := [
    { sql := "PRAGMA database_list"
      columns := ["seq", "name", "file"]
      rows := some [[.integer 0, .text "main", .text ""]]
      fault := some (.error ⟨.io, "disk I/O error", some 10⟩) }] } }
  own := { session := { settings := { mode := .csv, separator := "," } } }

/-- The list of databases is shown in columns, and breaks off; what comes later is shown as records. -/
theorem introspection_unseen_failing :
    ∃ t, IsFresh failing ∧ Means ".databases".toList .databases [] ∧
      dotLine readSource ".databases".toList failing = (.ok .error, t) ∧
      (t.world.written .stdout).length = 1 ∧ t.own.session = failing.own.session ∧
      Alike (runSql "a;" none) t (resumed failing t) := by
  let t := (dotLine readSource ".databases".toList failing).2
  have hfresh : IsFresh failing := ⟨rfl, rfl, rfl, rfl, rfl⟩
  have hline : Means ".databases".toList .databases [] := ⟨"databases", rfl, by decide⟩
  have hdone : dotLine readSource ".databases".toList failing = (.ok .error, t) := rfl
  obtain ⟨hsession, -, hsql, -⟩ :=
    Run.introspection_unseen readSource ⟨hfresh, .nothing⟩ hline (by decide) hdone
  exact ⟨t, hfresh, hline, hdone, rfl, hsession, hsql "a;" none⟩

end SqlConsole.Console

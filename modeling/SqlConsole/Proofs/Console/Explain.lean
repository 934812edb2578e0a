import SqlConsole.Proofs.Console.Request

/-! Explain mode: what was put aside when it was turned on is taken back when it is turned off, whatever is
done meanwhile. -/
namespace SqlConsole.Console

/-- The line turns explain mode on or off. -/
def TurnsTo (on : Bool) (line : List Char) : Prop :=
  ∃ arguments, Means line .explain arguments ∧ TurnsExplain arguments on

variable {o : Origin} {s t : Scene Console} {line : List Char} {on : Bool} {p : Snapshot}

/-! The line itself. -/

/-- At most something is said about an argument that is neither yes nor no. -/
theorem booleanArgument_tells (a : String) (s : Scene Console) :
    ∃ told, (booleanArgument a s).2 = { s with world := { s.world with past := told ++ s.world.past } } := by
  unfold booleanArgument
  dsimp only
  split
  · cases Text.number? a.toList <;> exact ⟨[], rfl⟩
  · split
    · exact ⟨[], rfl⟩
    · split
      · exact ⟨[], rfl⟩
      · exact ⟨[_], rfl⟩

theorem dotLine_turns (feed : Source → Act Console Outcome) (h : TurnsTo on line) (s : Scene Console) :
    ∃ told, dotLine feed line s = (.ok .success,
      { world := { s.world with past := told ++ s.world.past }
        own := { s.own with session := { s.own.session with
          settings := if on then
            s.own.session.settings.explained else s.own.session.settings.unexplained } } }) := by
  obtain ⟨arguments, hline, hon⟩ := h
  have hset : ∃ told, setExplain arguments.head? s = (.ok (),
      { world := { s.world with past := told ++ s.world.past }
        own := { s.own with session := { s.own.session with
          settings := if on then
            s.own.session.settings.explained else s.own.session.settings.unexplained } } }) := by
    unfold TurnsExplain at hon
    cases harguments : arguments.head? with
    | none =>
      rw [harguments] at hon
      obtain rfl : on = true := hon
      exact ⟨[], rfl⟩
    | some a =>
      rw [harguments] at hon
      obtain ⟨told, htold⟩ := booleanArgument_tells a s
      have hread : booleanArgument a s = (.ok on, _) := Prod.ext (hon s) htold
      refine ⟨told, ?_⟩
      unfold setExplain
      dsimp only
      rw [Act.bind_ok hread]
      rfl
  obtain ⟨told, hset⟩ := hset
  refine ⟨told, ?_⟩
  have hcommand : runCommand feed .explain arguments s = (.ok .success, _) := Act.bind_ok hset _
  rw [dotLine_of_means hline, reported_eq, hcommand]

/-! What is done while explain mode is on. -/

theorem Alters.keeps_aside {command : Command} {arguments : List String} {session session' : Session}
    (h : Alters command arguments session session')
    (hon : ¬ (command = .explain ∧ TurnsExplain arguments false))
    (haside : session.settings.beforeExplain = some p) : session'.settings.beforeExplain = some p := by
  cases h with
  | nothing => exact haside
  | settings t _ ht => exact ht.trans haside
  | explain on hcommand harguments =>
    cases on with
    | false => exact absurd ⟨hcommand, harguments⟩ hon
    | true =>
      show some (session.settings.beforeExplain.getD _) = some p
      rw [haside]
      rfl
  | sinks _ hsettings => rw [hsettings, haside]

theorem LineAlters.keeps_aside {session session' : Session} (h : LineAlters line session session')
    (hline : ¬ TurnsTo false line) (haside : session.settings.beforeExplain = some p) :
    session'.settings.beforeExplain = some p := by
  cases h with
  | nothing => exact haside
  | @command _ command arguments hmeans halters =>
    refine halters.keeps_aside ?_ haside
    rintro ⟨rfl, hoff⟩
    exact hline ⟨arguments, hmeans, hoff⟩

/-- Nothing but a line that turns explain mode off takes back what was put aside. -/
theorem Move.keeps_aside (h : Move (fun line => ¬ TurnsTo false line) s t) (hs : o.Stands s)
    (haside : s.own.session.settings.beforeExplain = some p) :
    t.own.session.settings.beforeExplain = some p := by
  have hsame {session : Session} (hsession : session = s.own.session) :
      session.settings.beforeExplain = some p := by rw [hsession, haside]
  cases h with
  | @line line hoff hline feed =>
    refine (ensures_dotLine feed hline _).leads
      (R := fun t => t.own.session.settings.beforeExplain = some p) hs ?_ ?_
    · rintro _ t ⟨_, halters, ⟨rfl, -⟩, -⟩
      exact halters.keeps_aside hoff haside
    · rintro _ t ⟨-, _, halters, rfl, -⟩
      exact halters.keeps_aside hoff haside
  | sql sql line? =>
    exact (still_runSql sql line?).leads (R := fun t => t.own.session.settings.beforeExplain = some p) hs
      (fun _ _ ht => hsame ht.1) fun _ _ ht => hsame ht.1.1
  | opened =>
    exact still_connection.leads (R := fun t => t.own.session.settings.beforeExplain = some p) hs
      (fun _ _ ht => hsame ht.2.1) fun _ _ ht => hsame ht.1.1
  | wrote | interrupt | history => exact haside
  | setting t ht => exact ht.trans haside
  | own c hsession => exact hsame hsession

theorem Moves.keeps_aside (h : Moves (fun line => ¬ TurnsTo false line) s t) (hs : o.Stands s)
    (haside : s.own.session.settings.beforeExplain = some p) :
    t.own.session.settings.beforeExplain = some p := by
  induction h with
  | refl => exact haside
  | tail hmoves hmove ih => exact hmove.keeps_aside (Moves.stands hmoves hs) ih

theorem unexplained_of_aside {s : Settings} (h : s.beforeExplain = some p) :
    s.unexplained =
      { s with mode := p.mode, header := p.header, widths := p.widths, beforeExplain := none } := by
  rw [Settings.unexplained, h]

/-- Explain mode is turned on, any inputs follow that do not turn it off, and then it is turned off: the mode,
the headers and the widths are what they were at first, and to turn it off once more changes nothing. -/
theorem Run.explain_brackets {s₀ : Scene Console} {first last : List Char}
    (feed feed' : Source → Act Console Outcome) (hrun : Run s₀ s)
    (hplain : s.own.session.settings.beforeExplain = none)
    (hfirst : TurnsTo true first)
    (hbetween : Inputs (fun line => ¬ TurnsTo false line) (dotLine feed first s).2 t)
    (hlast : TurnsTo false last) :
    (dotLine feed first s).1 = .ok .success ∧
      ∃ u, dotLine feed' last t = (.ok .success, u) ∧
        u.own.session.settings.mode = s.own.session.settings.mode ∧
        u.own.session.settings.header = s.own.session.settings.header ∧
        u.own.session.settings.widths = s.own.session.settings.widths ∧
        u.own.session.settings.beforeExplain = none ∧
        ∀ (feed'' : Source → Act Console Outcome) (line : List Char), TurnsTo false line →
          ∃ told, dotLine feed'' line u =
            (.ok .success, { u with world := { u.world with past := told ++ u.world.past } }) := by
  obtain ⟨told, hturned⟩ := dotLine_turns feed hfirst s
  have hline : ¬ IsReading first := by
    obtain ⟨arguments, hmeans, -⟩ := hfirst
    exact fun ⟨_, hread⟩ => nomatch (hmeans.unique hread).1
  have hs : (Origin.of s₀).Stands (dotLine feed first s).2 :=
    (Move.line (P := fun _ => True) trivial hline feed s).stands hrun.stands
  -- what the first line puts aside is still there, as nothing meanwhile takes it back
  have haside : t.own.session.settings.beforeExplain = some ⟨s.own.session.settings.mode,
      s.own.session.settings.header, s.own.session.settings.widths⟩ := by
    refine (hbetween.moves hs).keeps_aside hs ?_
    rw [hturned]
    show some (s.own.session.settings.beforeExplain.getD _) = _
    rw [hplain]
    rfl
  obtain ⟨told', hoff⟩ := dotLine_turns feed' hlast t
  rw [if_neg nofun, unexplained_of_aside haside] at hoff
  refine ⟨congrArg Prod.fst hturned, _, hoff, rfl, rfl, rfl, rfl, fun feed'' line hline => ?_⟩
  exact dotLine_turns feed'' hline _

/-- Meanwhile another mode is chosen. -/
theorem explain_brackets_mode :
    ∃ s t u, dotLine readSource ".explain".toList untouched = (.ok .success, s) ∧
      dotLine readSource ".mode line".toList s = (.ok .success, t) ∧ t.own.session.settings.mode = .line ∧
      Run untouched untouched ∧ TurnsTo true ".explain".toList ∧
      Inputs (fun line => ¬ TurnsTo false line) s t ∧ TurnsTo false ".explain no".toList ∧
      dotLine readSource ".explain no".toList t = (.ok .success, u) ∧
      u.own.session.settings.mode = untouched.own.session.settings.mode := by
  let explained : Settings := ({} : Settings).explained
  let s : Scene Console := ⟨{}, { session := { settings := explained } }⟩
  let t : Scene Console := ⟨{}, { session := { settings := { explained with mode := .line } } }⟩
  have hrun : Run untouched untouched := ⟨isFresh_untouched, .nothing⟩
  have hfirst : TurnsTo true ".explain".toList := ⟨[], ⟨"explain", rfl, by decide⟩, rfl⟩
  have hlast : TurnsTo false ".explain no".toList := ⟨["no"], ⟨"explain", rfl, by decide⟩, fun _ => rfl⟩
  have hturned : dotLine readSource ".explain".toList untouched = (.ok .success, s) := rfl
  have hmode : Means ".mode line".toList .mode ["line"] := ⟨"mode", rfl, by decide⟩
  have hchosen : dotLine readSource ".mode line".toList s = (.ok .success, t) := rfl
  have hfollows : Follows (fun line => ¬ TurnsTo false line) ".mode line".toList s :=
    ⟨fun ⟨_, hoff, _⟩ => (nomatch (hmode.unique hoff).1),
      fun _ _ _ ⟨_, hread, _⟩ => nomatch (hmode.unique hread).1⟩
  have hbetween : Inputs (fun line => ¬ TurnsTo false line) s t :=
    .request .nothing (.command ".mode line".toList) hfollows
  obtain ⟨-, u, hoff, hsame, -⟩ := hrun.explain_brackets readSource readSource rfl
    hfirst (by rw [hturned]; exact hbetween) hlast
  exact ⟨s, t, u, hturned, hchosen, rfl, hrun, hfirst, hbetween, hlast, hoff, hsame⟩

end SqlConsole.Console

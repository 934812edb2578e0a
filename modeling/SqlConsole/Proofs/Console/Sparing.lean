import SqlConsole.Proofs.Console.Request

/-! What an error in a dot line leaves as it was, wherever the console has come to. -/
namespace SqlConsole.Console
open Act (Ensures)

variable {o : Origin} {s s' t : Scene Console} {line : List Char} {arguments : List String} {f : Failure}

/-- Standard output is installed in the place of a sink that is closed, whether or not that one refuses
something. -/
theorem installOutput_stdout (s : Scene Console) :
    ∃ r t, installOutput .stdout s = (r, t) ∧ (∀ f, r = .error f → f.IsOfSink) ∧
      t.own.session.output = .stdout ∧
      ∀ id name, s.own.session.output = .opened id name → ¬ t.world.IsOpen (.opened id name) ∧
        (s.world.IsOpen (.opened id name) → t.world.past = .closed (.opened id name) :: s.world.past) := by
  let plain (w : World) : Scene Console :=
    ⟨w, { s.own with session := { s.own.session with output := .stdout } }⟩
  have hstep : installOutput .stdout s =
      (if s.own.session.output ≠ .stdout then Act.close s.own.session.output else pure () :
        Act Console Unit) (plain s.world) := rfl
  cases houtput : s.own.session.output with
  | opened id name =>
    rw [houtput, if_pos (by simp)] at hstep
    by_cases hopen : s.world.IsOpen (.opened id name)
    · obtain ⟨r, w, hclose, hr, -, -, -, hpast, hgone, -⟩ := Act.close_of_isOpen (s := plain s.world) hopen
      refine ⟨r, plain w, hstep.trans hclose, fun f hf => ?_, rfl, ?_⟩
      · rcases hr with rfl | ⟨rfl, -⟩ <;> cases hf
        exact ⟨_, _, rfl⟩
      · rintro _ _ ⟨⟩
        exact ⟨by simp [World.IsOpen, plain, hgone], fun _ => hpast⟩
    · refine ⟨_, plain s.world, hstep.trans (Act.close_of_not_isOpen hopen), by simp, rfl, ?_⟩
      rintro _ _ ⟨⟩
      exact ⟨hopen, fun h => absurd h hopen⟩
  | _ =>
    refine ⟨.ok (), plain s.world, ?_, by simp, rfl, by simp⟩
    rw [hstep, houtput]
    rfl

/-- Standard output makes room for any sink. -/
private theorem installOutput_ok (hs : s.own.session.output = .stdout) (k : Sink) :
    (installOutput k s).1 = .ok () := by
  have hstep : installOutput k s =
      (if s.own.session.output ≠ k then Act.close s.own.session.output else pure () : Act Console Unit)
        { s with own := { s.own with session := { s.own.session with output := k } } } := rfl
  rw [hstep, hs]
  split <;> rfl

/-- What cannot be opened is not installed. -/
private theorem ensures_installed {open_ : Act Console Sink} (hplain : t.own.session.output = .stdout)
    (hopen : Ensures (fun u => u = t) open_ (fun _ u => u.own = t.own) (fun _ u => u = t)) :
    Ensures (fun u => u = t) (do installOutput (← open_)) (fun _ _ => True) (fun _ u => u = t) := by
  refine .bind hopen fun k u hown => ?_
  -- what is replaced is standard output, so that no closing can fail
  have hinstall := installOutput_ok (s := u) (by rw [hown, hplain]) k
  rcases hresult : installOutput k u with ⟨g | _, v⟩
  · rw [hresult] at hinstall
    cases hinstall
  · trivial

private theorem ensures_target (hplain : t.own.session.output = .stdout) (target : String) :
    Ensures (fun u => u = t) (do
      if target = "stdout" ∨ target = "off" then pure ()
      else
        match target.toList with
        | '|' :: command => do installOutput (← Act.openCommand (String.ofList command))
        | _ => do installOutput (← Act.openFile target)) (fun _ _ => True) (fun _ u => u = t) := by
  split
  · exact .pure fun _ _ => trivial
  · split
    · exact ensures_installed hplain (Origin.openCommand_fails _ t)
    · exact ensures_installed hplain (Origin.openFile_fails _ t)

/-- Where the target cannot be opened nothing is done but to install standard output. -/
theorem setOutput_error {target : String} (hinstall : installOutput .stdout s = (.ok (), t))
    (hplain : t.own.session.output = .stdout) (h : setOutput target s = (.error f, s')) : s' = t := by
  have hrest := (Act.bind_ok hinstall _).symm.trans h
  exact (ensures_target hplain target).apply_error rfl hrest

/-- A command that has no outcome but success has failed with what the user is told of. -/
theorem command_told {feed : Source → Act Console Outcome} {command : Command} {x : Act Console Unit}
    (hline : Means line command arguments)
    (hcommand : runCommand feed command arguments = (do x; pure .success))
    (h : dotLine feed line s = (.ok .error, s')) :
    ∃ f t text, x s = (.error f, t) ∧ f.message?.isSome ∧ s' = t.noted (.wrote .stderr text) := by
  rw [dotLine_of_means hline, hcommand, reported_eq, Act.bind_apply] at h
  rcases hx : x s with ⟨f | _, t⟩ <;> rw [hx] at h
  · dsimp only at h
    cases hmessage : f.message? with
    | none =>
      rw [hmessage] at h
      cases h
    | some message =>
      rw [hmessage] at h
      exact ⟨f, t, _, rfl, by rw [hmessage]; rfl, (Prod.mk.inj h).2.symm⟩
  · cases h

/-- What a line leaves as it was if it comes to an error. -/
structure ErrorSpares (line : List Char) (s s' : Scene Console) : Prop where
  settings : s'.own.session.settings = s.own.session.settings
  sinks : (∀ command ∈ directing, ∀ arguments, ¬ Means line command arguments) →
    s'.own.session = s.own.session
  output : ∀ arguments, Means line .output arguments → s'.own.session.output = .stdout ∧
    ∀ id name, s.own.session.output = .opened id name → ¬ s'.world.IsOpen (.opened id name) ∧
      (s.world.IsOpen (.opened id name) →
        ∃ text, s'.world.past = .wrote .stderr text :: .closed (.opened id name) :: s.world.past)
  log : ∀ arguments, Means line .log arguments →
    s'.own.session.log = none ∧ s'.world.logging = false

/-- A dot line that reads no file and comes to an error leaves the settings as they were. It leaves the
session's sinks as they were, too, unless it chooses one: then results go to standard output and the sink
before is closed, or there is no log. -/
theorem Run.error_spares {s₀ : Scene Console} {feed : Source → Act Console Outcome} (hrun : Run s₀ s)
    (hline : ¬ IsReading line) (h : dotLine feed line s = (.ok .error, s')) : ErrorSpares line s s' := by
  have hs := hrun.stands
  obtain ⟨session', -, ⟨rfl, -⟩, hspares⟩ := (ensures_dotLine feed hline _).apply_ok hs h
  refine ⟨(hspares rfl).settings, (hspares rfl).sinks, fun arguments hmeans => ?_,
    fun arguments hmeans => ?_⟩
  · obtain ⟨f, t, text, hx, htold, rfl⟩ := command_told hmeans rfl h
    obtain ⟨r, t', hinstall, hsink, hplain, hclosed⟩ := installOutput_stdout s
    rcases r with g | _
    · -- what comes out of a sink is no message
      obtain rfl : f = g := by
        have hfirst := (Act.bind_error hinstall _).symm.trans hx
        exact (Except.error.inj (Prod.mk.inj hfirst).1).symm
      obtain ⟨k, fault, rfl⟩ := hsink f rfl
      cases htold
    · obtain rfl := setOutput_error hinstall hplain hx
      refine ⟨hplain, fun id name houtput => ?_⟩
      obtain ⟨hgone, hpast⟩ := hclosed id name houtput
      exact ⟨hgone, fun hopen => ⟨text, congrArg _ (hpast hopen)⟩⟩
  · obtain ⟨f, t, text, hx, htold, rfl⟩ := command_told hmeans rfl h
    have hlog := ensures_setLog_told.apply_error hs hx htold
    exact hlog

/-- Output goes to a file, and then to one that there is no directory for. -/
theorem error_spares_output :
    let s := ((Request.command ".output f".toList).perform untouched).2
    Run untouched s ∧ ¬ IsReading ".output no/such".toList ∧
      ∃ s', dotLine readSource ".output no/such".toList s = (.ok .error, s') ∧
        ErrorSpares ".output no/such".toList s s' := by
  intro s
  have hrun : Run untouched s := ⟨isFresh_untouched,
    .request .nothing (.command _) (follows_of_forall (fun _ => trivial) _ _)⟩
  have hmeans : Means ".output no/such".toList .output ["no/such"] := ⟨"output", rfl, by decide⟩
  have hline : ¬ IsReading ".output no/such".toList := fun ⟨_, hread⟩ => nomatch (hmeans.unique hread).1
  obtain ⟨s', hfails⟩ : ∃ s', dotLine readSource ".output no/such".toList s = (.ok .error, s') := ⟨_, rfl⟩
  exact ⟨hrun, hline, s', hfails, hrun.error_spares hline hfails⟩

end SqlConsole.Console

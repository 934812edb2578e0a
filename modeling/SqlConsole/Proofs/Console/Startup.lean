import SqlConsole.Proofs.Console.Arguments

/-! What the program does with its arguments, from one reading of them. -/
namespace SqlConsole.Console

/-- The options that set something and let the program go on. -/
def settingOptions : List String :=
  ["html", "list", "line", "column", "csv", "header", "noheader", "echo", "stats", "bail",
    "interactive", "batch"]

/-- An option sets something in the console, or it ends the program and the console stays as it
is. -/
theorem apply_option (written : String) (s : Scene Console) :
    if optionName written ∈ settingOptions then
      ∃ c, (Argument.option written).apply s = (.ok (), { s with own := c })
    else
      ∃ w, (Argument.option written).apply s =
        (.error (.exit (if optionName written = "version" then 0 else 1)),
          { s with world := w }) := by
  rw [Argument.apply]
  by_cases h : optionName written ∈ settingOptions
  · rw [if_pos h]
    have hnames := h
    simp only [settingOptions, List.mem_cons, List.not_mem_nil, or_false] at hnames
    rcases hnames with h | h | h | h | h | h | h | h | h | h | h | h <;> rw [h] <;> exact ⟨_, rfl⟩
  · have hname : ∀ name ∈ settingOptions, optionName written ≠ name := fun name hm heq =>
      h (heq ▸ hm)
    rw [if_neg h]
    by_cases hversion : optionName written = "version"
    · rw [if_pos hversion, hversion]
      exact ⟨_, rfl⟩
    · rw [if_neg hversion]
      by_cases hhelp : optionName written = "help"
      · rw [hhelp]
        exact ⟨_, rfl⟩
      · rw [applyOption]
        · exact ⟨_, rfl⟩
        all_goals first | exact hversion | exact hhelp | exact hname _ (by decide)

/-- Applying the argument ends the program with that code: an option that sets nothing, or a text
that fails or asks to stop where the session says that the first error is the end. -/
def Argument.Ends (s : Scene Console) (code : Int) : Argument → Prop
  | place _ => False
  | option written =>
    optionName written ∉ settingOptions ∧ code = if optionName written = "version" then 0 else 1
  | valued written text =>
    optionName written = "cmd" ∧ ∃ o s', runText text s = (.ok o, s') ∧
      s'.own.session.settings.bail = true ∧ o ≠ .success ∧ code = if o = .stop then 0 else 1

private theorem apply_of_ends {x : Argument} {s : Scene Console} {code : Int} (h : x.Ends s code) :
    (x.apply s).1 = .error (.exit code) := by
  cases x with
  | place => exact h.elim
  | option written =>
    obtain ⟨hname, rfl⟩ := h
    have happly := apply_option written s
    rw [if_neg hname] at happly
    obtain ⟨w, happly⟩ := happly
    rw [happly]
  | valued written text =>
    obtain ⟨hname, o, s', hrun, hbail, ho, rfl⟩ := h
    rw [Argument.apply, hname]
    show (runOptionText text s).1 = _
    rw [runOptionText, Act.bind_ok hrun, Act.bind_apply]
    show ((if s'.own.session.settings.bail then _ else pure () : Act Console Unit) s').1 = _
    rw [hbail]
    cases o with
    | success => exact absurd rfl ho
    | error => rfl
    | stop => rfl

/-- What stands behind an argument that ends the program is not applied. -/
theorem forM_apply_of_ends {before : List Argument} {x : Argument} {s s₁ : Scene Console}
    {code : Int} (hbefore : before.forM Argument.apply s = (.ok (), s₁)) (hends : x.Ends s₁ code)
    (after : List Argument) :
    (before ++ x :: after).forM Argument.apply s = (.error (.exit code), (x.apply s₁).2) := by
  have happend : (before ++ x :: after).forM Argument.apply =
      before.forM Argument.apply >>= fun _ => (x :: after).forM Argument.apply :=
    List.forM_append
  rw [happend, Act.bind_ok hbefore]
  exact Act.bind_error (Prod.ext (apply_of_ends hends) rfl) _

/-- What is done with arguments that have been read to their end: first the database and the set-up
file, then the options in order, so that they override the set-up file, and last the text in the
second place. -/
def follow (l : List Argument) : Act Console Named := do
  (places l).head?.forM nameDatabase
  setUp (lastInitFile? l)
  l.forM Argument.apply
  (places l)[1]?.forM runPlacedText
  pure
    { database := (← Act.own).filename
      initFiles := (lastInitFile? l).toList.filter fun f => !f.isEmpty
      texts := (places l)[1]?.toList }

/-- Reading the arguments changes nothing of the console but two choices. -/
theorem prepared_eq (l : List Argument) (c : Console) :
    prepared l c = { c with
      fileSystem := (prepared l c).fileSystem, interactive := (prepared l c).interactive } := by
  induction l generalizing c with
  | nil => rfl
  | cons x l ih =>
    have hx : ∃ fs i, x.prepare c = { c with fileSystem := fs, interactive := i } := by
      cases x with
      | place => exact ⟨_, _, rfl⟩
      | option =>
        rw [Argument.prepare]
        split <;> exact ⟨_, _, rfl⟩
      | valued =>
        rw [Argument.prepare]
        split <;> exact ⟨_, _, rfl⟩
    obtain ⟨fs, i, hx⟩ := hx
    rw [prepared, List.foldl_cons, ← prepared, ih, hx]

/-- The two passes do what one reading of the arguments says. If the reading meets a problem the
user is told of it and the program ends with the code 1: there is no other change outside the
console, and none of the session or the connection. Else the arguments are applied in order, up to
the first one that ends the program. -/
theorem processArguments_reads_once (arguments : List String) (s : Scene Console)
    (h : arguments ≠ []) :
    (∃ rest, (readIn s arguments).Reads s.world.script.knownFileSystems 0 arguments rest) ∧
      match readIn s arguments with
      | ⟨l, some problem⟩ =>
        processArguments arguments s =
            (.error (.exit 1), problem.told { s with own := prepared l s.own }) ∧
          prepared l s.own = { s.own with
            fileSystem := (prepared l s.own).fileSystem
            interactive := (prepared l s.own).interactive }
      | ⟨l, none⟩ =>
        processArguments arguments s = follow l { s with own := prepared l s.own } ∧
          ∀ before x after code t t', l = before ++ x :: after →
            before.forM Argument.apply t = (.ok (), t') → x.Ends t' code →
            l.forM Argument.apply t = (.error (.exit code), (x.apply t').2) := by
  refine ⟨readArguments_reads _ 0 arguments, ?_⟩
  have hfirst : findPlaces {} arguments s = firstPass [] s (readIn s arguments) :=
    findPlaces_eq 0 arguments [] rfl s
  have hsecond : (readIn s arguments).problem? = none →
      applyOptions arguments = (readIn s arguments).found.forM Argument.apply :=
    applyOptions_eq _ 0 arguments
  rw [processArguments, if_neg (by simpa using h)]
  generalize readIn s arguments = r at hfirst hsecond
  obtain ⟨l, _ | problem⟩ := r
  · refine ⟨?_, ?_⟩
    · rw [Act.bind_ok hfirst, hsecond rfl]
      rfl
    · rintro before x after code t t' rfl hbefore hends
      exact forM_apply_of_ends hbefore hends after
  · exact ⟨Act.bind_error hfirst _, prepared_eq l s.own⟩

/-- A value that looks like an option is a value for both passes, and a value that is missing at the
end is a problem for the first. -/
theorem processArguments_reads_once_values :
    let s : Scene Console := ⟨{}, { interactive := true }⟩
    processArguments ["-batch", "--nullvalue", "-help", "-csv"] s =
        (.ok {}, ⟨{}, { session.settings := {
          nullvalue := "-help", mode := .csv, separator := "," } }⟩) ∧
      processArguments ["-batch", "--nullvalue", "-help", "-cmd"] s =
        (.error (.exit 1), (ArgumentProblem.missingValue "-cmd").told ⟨{}, {}⟩) := by
  intro s
  have hall := (processArguments_reads_once ["-batch", "--nullvalue", "-help", "-csv"] s nofun).2
  have hmissing :=
    (processArguments_reads_once ["-batch", "--nullvalue", "-help", "-cmd"] s nofun).2
  exact ⟨hall.1.trans (by rfl), hmissing.1⟩

end SqlConsole.Console

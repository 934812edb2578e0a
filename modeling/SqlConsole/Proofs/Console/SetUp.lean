import SqlConsole.Console.Program
import SqlConsole.Proofs.Console.Startup
import SqlConsole.Proofs.World.Ensures
import SqlConsole.Proofs.World.Sinks

/-! The set-up file that is read where no other is named: when the program comes to it, and what it has
done by then. -/
namespace SqlConsole.Console

private theorem bind_of_eq {α β : Type} {x y : Act Console α} {s t : Scene Console} (h : x s = y t)
    (f : α → Act Console β) : (x >>= f) s = (y >>= f) t := by
  rw [Act.bind_apply, h, ← Act.bind_apply]

/-- Does the work of the program, tells of what has gone wrong, and closes the console. -/
def concluded (work : Act Console Int) : Act Console Int :=
  (do
    match ← Act.attempt work with
    | .ok code => pure code
    | .error (.complaint c) => do
      writeError (programName ++ ": Error: " ++ c.message ++ "\n")
      pure 1
    | .error .interrupted => pure 1
    | .error f => Act.fail f).ensuring closeAll

/-- What the program runs for its user: the options in order, and then the text in the second place, or
else the program's own input. -/
def userWork (l : List Argument) (input : List Char) : Act Console Int := do
  l.forM Argument.apply
  match (places l)[1]? with
  | some text => do
    runPlacedText text
    pure (← Act.own).exitCode
  | none => pure ((← mainLoop none true (inputOfText input)).code : Int)

/-- What comes after the set-up file: the user's work if all went well there, or else the end. -/
def afterSetUp (l : List Argument) (input : List Char) : Outcome → Act Console Int
  | .success => userWork l input
  | outcome => Act.fail (.exit outcome.code)

/-- What the program runs once it has found what its arguments name. -/
def runNamed (input : List Char) (named : Named) : Act Console Int := do
  if named.texts.isEmpty then pure ((← mainLoop none true (inputOfText input)).code : Int)
  else pure (← Act.own).exitCode

theorem program_eq (arguments : List String) (input : List Char) :
    program arguments input = concluded (processArguments arguments >>= runNamed input) := rfl

theorem concluded_congr {x y : Act Console Int} {s t : Scene Console} (h : x s = y t) :
    concluded x s = concluded y t := by
  simp only [concluded, Act.ensuring, Act.bind_apply, Act.attempt, h]

private theorem processArguments_eq_follow {arguments : List String} (h : arguments ≠ [])
    {s : Scene Console} (hread : (readIn s arguments).problem? = none) :
    processArguments arguments s = follow (readIn s arguments).found
      { s with own := prepared (readIn s arguments).found s.own } := by
  have hfirst : findPlaces {} arguments s = firstPass [] s (readIn s arguments) :=
    findPlaces_eq 0 arguments [] rfl s
  have hsecond : applyOptions arguments = (readIn s arguments).found.forM Argument.apply :=
    applyOptions_eq _ 0 arguments hread
  rw [processArguments, if_neg (by simpa using h)]
  generalize readIn s arguments = r at hread hfirst hsecond
  obtain ⟨l, _ | problem⟩ := r
  · rw [Act.bind_ok hfirst, hsecond]
    rfl
  · cases hread

private theorem follow_runNamed (l : List Argument) (input : List Char) :
    (follow l >>= runNamed input) = (do
      (places l).head?.forM nameDatabase
      setUp (lastInitFile? l)
      userWork l input) := by
  simp only [follow, userWork, bind_assoc, pure_bind]
  congr 1; funext _; congr 1; funext _; congr 1; funext _
  cases (places l)[1]? with
  | none => rfl
  | some text => rfl

theorem writeError_apply (text : String) (s : Scene Console) :
    writeError text s =
      (.ok (), { s with world := { s.world with past := .wrote .stderr text :: s.world.past } }) := by
  rw [← String.ofList_toList (s := text), writeError, String.toList_ofList]
  rfl

/-- The user at a keyboard is told which file is read. -/
def announced (s : Scene Console) : Scene Console :=
  if s.own.interactive then
    { s with world := { s.world with
        past := .wrote .stderr ("-- Loading resources from " ++ defaultInitFile ++ "\n") :: s.world.past } }
  else s

/-- The source that the set-up file is read from. -/
def setUpSource (path : World.Path) : Source := { path, reader := { ends := .unified } }

/-- The program goes on only if all went well in the set-up file. -/
private def goOn : Outcome → Act Console Unit
  | .success => pure ()
  | outcome => Act.fail (.exit outcome.code)

private theorem goOn_bind (l : List Argument) (input : List Char) :
    (fun o => goOn o >>= fun _ => userWork l input) = afterSetUp l input := by
  funext o
  cases o <;> rfl

private theorem setUp_eq {s : Scene Console} {path : World.Path}
    (hfile : s.world.files.hasFile defaultInitFile)
    (hspot : s.world.files.spot defaultInitFile = some (.file path)) :
    setUp none s = (readSource (setUpSource path) >>= goOn) (announced s) := by
  have hsource : Act.openSource? defaultInitFile .unified s = (.ok (some (setUpSource path)), s) := by
    have hname : ¬ defaultInitFile.toList.contains '\x00' := by decide +kernel
    have hworld : (Act.world : Act Console World) s = (.ok s.world, s) := rfl
    refine (Act.bind_ok (a := ()) (congrFun (if_neg hname) s) _).trans ?_
    rw [Act.bind_ok hworld, hspot]
    rfl
  have hread : readInitFile none s = readSource (setUpSource path) (announced s) := by
    simp only [readInitFile, Act.bind_apply, Act.world, hfile, if_true, hsource, Act.own, announced]
    split
    · exact Act.bind_ok (writeError_apply _ s) _
    · rfl
  have hsetUp : setUp none = readInitFile none >>= goOn := rfl
  rw [hsetUp]
  exact bind_of_eq hread _

/-- The database that is named is opened at most, with nothing given to it to run. -/
structure Opened (s s' : Scene Console) : Prop where
  world : ∃ deeds, s'.world = { s.world with past := deeds ++ s.world.past } ∧
    ∀ d ∈ deeds, ∃ name fileSystem, d = .engine (.openMain name fileSystem)
  session : s'.own.session = s.own.session

namespace Opened
variable {s s' : Scene Console}

protected theorem refl (s : Scene Console) : Opened s s := ⟨⟨[], rfl, nofun⟩, rfl⟩

theorem choose (s : Scene Console) {f : Console → Console} (hf : ∀ c, (f c).session = c.session) :
    Act.Keeps (Opened s) (Act.modifyOwn f) := fun t h => ⟨h.world, (hf t.own).trans h.session⟩

theorem tells (s : Scene Console) (name : String) (fileSystem : Option String) :
    Act.Keeps (Opened s) (Act.event (.openMain name fileSystem)) := by
  intro t h
  obtain ⟨deeds, hworld, hdeeds⟩ := h.world
  refine ⟨⟨.engine (.openMain name fileSystem) :: deeds, ?_, ?_⟩, h.session⟩
  · show { t.world with past := .engine (.openMain name fileSystem) :: t.world.past } = _
    rw [hworld]
    rfl
  · exact List.forall_mem_cons.2 ⟨⟨name, fileSystem, rfl⟩, hdeeds⟩

end Opened

private theorem connection_opened (s : Scene Console) : Act.Keeps (Opened s) connection := by
  refine .bind (fun _ h => h) fun c => ?_
  cases c.db with
  | some db => exact .pure db
  | none =>
    refine .bind (Opened.choose s fun _ => rfl) fun _ => .bind (Opened.tells s _ _) fun _ =>
      .bind (fun _ h => h) fun w => ?_
    split
    · exact .fail _
    · exact .fail _
    · exact .bind (Opened.choose s fun _ => rfl) fun _ => .pure _

private theorem nameDatabase_opened (s : Scene Console) (name : String) :
    Act.Keeps (Opened s) (nameDatabase name) := by
  refine .bind (Opened.choose s fun _ => rfl) fun _ => .bind (fun _ h => h) fun w => ?_
  split
  · exact Act.Ensures.discard (connection_opened s)
  · exact .pure ()

theorem opened_of_places {names : Option String} {s s' : Scene Console}
    (h : names.forM nameDatabase s = (.ok (), s')) : Opened s s' := by
  cases names with
  | none =>
    cases h
    exact .refl s
  | some name => exact (nameDatabase_opened s name).apply (.refl s) h

theorem exists_spot_of_hasFile {files : World.Files} {name : String} (h : files.hasFile name) :
    ∃ path, files.spot name = some (.file path) := by
  unfold World.Files.hasFile at h
  split at h
  · next path hspot => exact ⟨path, hspot⟩
  · cases h

/-- With any arguments the set-up file in its usual place is read once before anything that the user wants
run: by then the database that the arguments name has been opened at most. Without arguments that file is
passed over. -/
theorem program_sets_up {arguments : List String} (input : List Char) {s s₁ : Scene Console}
    (hfile : s.world.files.hasFile defaultInitFile)
    (hread : (readIn s arguments).problem? = none)
    (hinit : ∀ x ∈ (readIn s arguments).found, x.initFile? = none)
    (hopen : (places (readIn s arguments).found).head?.forM nameDatabase
      { s with own := prepared (readIn s arguments).found s.own } = (.ok (), s₁)) :
    (arguments ≠ [] → ∃ path, s.world.files.spot defaultInitFile = some (.file path) ∧
      Opened s s₁ ∧
      program arguments input s = concluded
        (readSource (setUpSource path) >>= afterSetUp (readIn s arguments).found input)
        (announced s₁)) ∧
    (arguments = [] → program arguments input s = concluded (userWork [] input) s) := by
  refine ⟨fun harguments => ?_, ?_⟩
  · have hfollow := processArguments_eq_follow harguments hread
    generalize (readIn s arguments).found = l at hinit hopen hfollow
    obtain ⟨path, hspot⟩ := exists_spot_of_hasFile hfile
    have hopened := opened_of_places hopen
    have hnone : lastInitFile? l = none := by
      rw [lastInitFile?, List.filterMap_eq_nil_iff.2 hinit]
      rfl
    obtain ⟨deeds, hworld, hdeeds⟩ := hopened.world
    have hfile₁ : s₁.world.files.hasFile defaultInitFile := by rw [hworld]; exact hfile
    have hspot₁ : s₁.world.files.spot defaultInitFile = some (.file path) := by rw [hworld]; exact hspot
    refine ⟨path, hspot, ⟨⟨deeds, hworld, hdeeds⟩, ?_⟩, ?_⟩
    · rw [hopened.session, prepared_eq]
    · rw [program_eq]
      refine concluded_congr ?_
      calc (processArguments arguments >>= runNamed input) s
        _ = (follow l >>= runNamed input) { s with own := prepared l s.own } := bind_of_eq hfollow _
        _ = (setUp none >>= fun _ => userWork l input) s₁ := by
          rw [follow_runNamed, Act.bind_ok hopen, hnone]
        _ = ((readSource (setUpSource path) >>= goOn) >>= fun _ => userWork l input) (announced s₁) :=
          bind_of_eq (setUp_eq hfile₁ hspot₁) _
        _ = (readSource (setUpSource path) >>= afterSetUp l input) (announced s₁) := by
          rw [bind_assoc, goOn_bind]
  · rintro rfl
    have hnothing : processArguments [] >>= runNamed input = userWork [] input := rfl
    rw [program_eq, hnothing]

/-- The set-up file in its usual place says hello. -/
def welcoming : Scene Console :=
  ⟨{ files := ({} : World.Files).add (World.workingFolder ++ ["home", ".sqliterc"])
      (Text.utf8 ".print hello\n".toList) }, {}⟩

/-- Even an option that changes nothing has the file read before the input. -/
theorem program_sets_up_batch :
    let input := ".print x\n".toList
    let path := World.workingFolder ++ ["home", ".sqliterc"]
    welcoming.world.files.hasFile defaultInitFile ∧
      (readIn welcoming ["-batch"]).problem? = none ∧
      (∀ x ∈ (readIn welcoming ["-batch"]).found, x.initFile? = none) ∧
      (places (readIn welcoming ["-batch"]).found).head?.forM nameDatabase welcoming =
        (.ok (), welcoming) ∧
      program ["-batch"] input welcoming = concluded
        (readSource (setUpSource path) >>= afterSetUp (readIn welcoming ["-batch"]).found input)
        (announced welcoming) ∧
      (program ["-batch"] input welcoming).2.world.written .stdout = ["hello\n", "x\n"] := by
  intro input path
  have hfile : welcoming.world.files.hasFile defaultInitFile := by decide +kernel
  have hinit : ∀ x ∈ (readIn welcoming ["-batch"]).found, x.initFile? = none := by decide +kernel
  have hopen : (places (readIn welcoming ["-batch"]).found).head?.forM nameDatabase welcoming =
      (.ok (), welcoming) := rfl
  obtain ⟨path', hspot, -, hprogram⟩ :=
    (program_sets_up input hfile (by decide +kernel) hinit hopen).1 nofun
  have hpath : welcoming.world.files.spot defaultInitFile = some (.file path) := by decide +kernel
  obtain rfl : path' = path := by simpa using hspot.symm.trans hpath
  exact ⟨hfile, by decide +kernel, hinit, hopen, hprogram, by decide +kernel⟩

/-- Without arguments the input is run and the file is not. -/
theorem program_starts_without :
    welcoming.world.files.hasFile defaultInitFile ∧ (readIn welcoming []).problem? = none ∧
      lastInitFile? (readIn welcoming []).found = none ∧
      (program [] ".print x\n".toList welcoming).1.toOption = some 0 ∧
      (program [] ".print x\n".toList welcoming).2.world.written .stdout = ["x\n"] := by
  decide +kernel

end SqlConsole.Console

import SqlConsole.Console.Startup
import SqlConsole.Proofs.World.Discreet

/-! The arguments of the program read once, from left to right, and both passes over them as what is
done with the arguments found. -/
namespace SqlConsole.Console

/-- An argument as it was written, with the value that follows it if it takes one. -/
inductive Argument where
  | place (text : String)
  | option (written : String)
  | valued (written value : String)
  deriving DecidableEq, Repr

/-- What keeps the arguments from being read to their end. -/
inductive ArgumentProblem where
  | tooMany (text : String)
  | missingValue (written : String)
  | noFileSystem (name : String)
  deriving DecidableEq, Repr

/-- The arguments up to the first problem. -/
structure Arguments where
  found : List Argument := []
  problem? : Option ArgumentProblem := none
  deriving DecidableEq, Repr

def Arguments.cons (x : Argument) (r : Arguments) : Arguments := { r with found := x :: r.found }

/-- Reads arguments up to the first problem, where these are the file systems that there are. Before them
`n` places were named. -/
def readArguments (fileSystems : List String) (n : Nat) : List String → Arguments
  | [] => {}
  | a :: rest =>
    if !isOption a then
      if n < 2 then (readArguments fileSystems (n + 1) rest).cons (.place a)
      else { problem? := some (.tooMany a) }
    else if optionName a ∈ valuedOptions then
      match rest with
      | [] => { problem? := some (.missingValue a) }
      | value :: rest =>
        if optionName a = "vfs" ∧ value ∉ fileSystems then
          { problem? := some (.noFileSystem value) }
        else (readArguments fileSystems n rest).cons (.valued a value)
    else (readArguments fileSystems n rest).cons (.option a)

/-- The arguments as the program reads them. -/
def readIn (s : Scene Console) (arguments : List String) : Arguments :=
  readArguments s.world.script.knownFileSystems 0 arguments

namespace Argument

def place? : Argument → Option String
  | place text => some text
  | _ => none

def initFile? : Argument → Option String
  | valued written file => if optionName written = "init" then some file else none
  | _ => none

/-- The words that an argument consists of. -/
def words : Argument → List String
  | place text => [text]
  | option written => [written]
  | valued written value => [written, value]

/-- An argument that may stand as it is: what looks like an option is one, unless it is a value. -/
def Fits (fileSystems : List String) : Argument → Prop
  | place text => isOption text = false
  | option written => isOption written = true ∧ optionName written ∉ valuedOptions
  | valued written value =>
    isOption written = true ∧ optionName written ∈ valuedOptions ∧
      (optionName written = "vfs" → value ∈ fileSystems)

/-- What an argument changes as soon as it is read. -/
def prepare (c : Console) : Argument → Console
  | place _ => c
  | option written =>
    if optionName written = "batch" then { c with interactive := false } else c
  | valued written value =>
    if optionName written = "vfs" then { c with fileSystem := some value } else c

/-- What an argument does once the set-up file has been read. -/
def apply : Argument → Act Console Unit
  | place _ => pure ()
  | option written => applyOption written (optionName written)
  | valued written value =>
    match optionName written with
    | "separator" => modifySettings fun s => { s with separator := value }
    | "nullvalue" => modifySettings fun s => { s with nullvalue := value }
    | "cmd" => runOptionText value
    | _ => pure ()

end Argument

/-- The console with what the arguments change as they are read. -/
def prepared (l : List Argument) (c : Console) : Console := l.foldl Argument.prepare c

def places (l : List Argument) : List String := l.filterMap Argument.place?

def lastInitFile? (l : List Argument) : Option String := (l.filterMap Argument.initFile?).getLast?

namespace ArgumentProblem

/-- The problem is the first of the words `rest`, which stand behind `n` places. -/
def Heads (fileSystems : List String) (n : Nat) (rest : List String) : ArgumentProblem → Prop
  | tooMany text => 2 ≤ n ∧ isOption text = false ∧ rest.head? = some text
  | missingValue written =>
    isOption written = true ∧ optionName written ∈ valuedOptions ∧ rest = [written]
  | noFileSystem name =>
    name ∉ fileSystems ∧ ∃ written after, isOption written = true ∧
      optionName written = "vfs" ∧ rest = written :: name :: after

/-- What the user is told. -/
def text : ArgumentProblem → String
  | tooMany text => explained ("too many options: \"" ++ text ++ "\"")
  | missingValue written => explained ("missing argument to " ++ written)
  | noFileSystem name => "no such VFS: \"" ++ name ++ "\"\n"
where
  explained (message : String) : String :=
    programName ++ ": Error: " ++ message ++ "\nUse -help for a list of options.\n"

/-- The scene when the user has been told. -/
def told (p : ArgumentProblem) (s : Scene Console) : Scene Console :=
  { s with world := { s.world with past := .wrote .stderr p.text :: s.world.past } }

end ArgumentProblem

/-- The arguments that have been read behind `n` places are the words before `rest`, where they end
or have their first problem. -/
structure Arguments.Reads (fileSystems : List String) (n : Nat) (r : Arguments) (words rest : List String) :
    Prop where
  words_eq : words = r.found.flatMap Argument.words ++ rest
  fits : ∀ x ∈ r.found, x.Fits fileSystems
  ends : r.problem? = none → rest = []
  heads : ∀ problem ∈ r.problem?, problem.Heads fileSystems (n + (places r.found).length) rest

private theorem Arguments.Reads.cons {fileSystems : List String} {n m : Nat} {r : Arguments}
    {words rest : List String} (h : r.Reads fileSystems m words rest) {x : Argument}
    (hx : x.Fits fileSystems) (hm : m = n + (places [x]).length) :
    (r.cons x).Reads fileSystems n (x.words ++ words) rest where
  words_eq := by rw [h.words_eq, ← List.append_assoc]; rfl
  fits := List.forall_mem_cons.mpr ⟨hx, h.fits⟩
  ends := h.ends
  heads problem hp := by
    have hl : (places (x :: r.found)).length = (places [x]).length + (places r.found).length := by
      rw [places, ← List.singleton_append, List.filterMap_append, List.length_append]
      rfl
    have := h.heads problem hp
    rwa [hm, Nat.add_assoc, ← hl] at this

/-- Each word is read once: as a place, as an option, or as the value of the option before it. -/
theorem readArguments_reads (fileSystems : List String) (n : Nat) (words : List String) :
    ∃ rest, (readArguments fileSystems n words).Reads fileSystems n words rest := by
  fun_induction readArguments fileSystems n words with
  | case1 n => exact ⟨[], rfl, nofun, fun _ => rfl, nofun⟩
  | case2 n a rest ha hlt ih =>
    obtain ⟨after, h⟩ := ih
    have hx : isOption a = false := by simpa using ha
    exact ⟨after, h.cons (show (Argument.place a).Fits fileSystems from hx) rfl⟩
  | case3 n a rest ha hlt =>
    refine ⟨a :: rest, rfl, nofun, nofun, ?_⟩
    rintro _ ⟨rfl⟩
    exact ⟨Nat.le_of_not_lt hlt, by simpa using ha, rfl⟩
  | case4 n a ha hv =>
    refine ⟨[a], rfl, nofun, nofun, ?_⟩
    rintro _ ⟨rfl⟩
    exact ⟨by simpa using ha, hv, rfl⟩
  | case5 n a ha hv value rest hfs =>
    refine ⟨a :: value :: rest, rfl, nofun, nofun, ?_⟩
    rintro _ ⟨rfl⟩
    exact ⟨hfs.2, a, rest, by simpa using ha, hfs.1, rfl⟩
  | case6 n a ha hv value rest hfs ih =>
    obtain ⟨after, h⟩ := ih
    have hx : (Argument.valued a value).Fits fileSystems :=
      ⟨by simpa using ha, hv, fun hn => Classical.not_not.mp fun hm => hfs ⟨hn, hm⟩⟩
    exact ⟨after, h.cons hx rfl⟩
  | case7 n a rest ha hv ih =>
    obtain ⟨after, h⟩ := ih
    have hx : (Argument.option a).Fits fileSystems := ⟨by simpa using ha, hv⟩
    exact ⟨after, h.cons hx rfl⟩

/-- What the first pass makes of the arguments found. -/
def placesOf (l : List Argument) : Places :=
  { database := (places l).head?, text := (places l)[1]?, initFile := lastInitFile? l }

private theorem places_concat (l : List Argument) (x : Argument) :
    places (l ++ [x]) = places l ++ x.place?.toList := by
  rw [places, List.filterMap_append]
  cases h : x.place? <;> simp [places, h]

private theorem lastInitFile?_concat (l : List Argument) (x : Argument) :
    lastInitFile? (l ++ [x]) = x.initFile?.or (lastInitFile? l) := by
  rw [lastInitFile?, List.filterMap_append, List.getLast?_append]
  cases h : x.initFile? <;> simp [lastInitFile?, h]

private theorem placesOf_concat {l : List Argument} {x : Argument} (hx : x.place? = none) :
    placesOf (l ++ [x]) = { placesOf l with initFile := x.initFile?.or (lastInitFile? l) } := by
  rw [placesOf, places_concat, lastInitFile?_concat, hx, Option.toList_none, List.append_nil]
  rfl

private theorem findPlaces_place (l : List Argument) (h : (places l).length < 2) {a : String}
    (ha : isOption a = false) (rest : List String) :
    findPlaces (placesOf l) (a :: rest) = findPlaces (placesOf (l ++ [.place a])) rest := by
  have hl : lastInitFile? (l ++ [.place a]) = lastInitFile? l := lastInitFile?_concat l _
  rw [findPlaces.eq_def]
  simp only [ha, placesOf, hl, places_concat, Argument.place?]
  match places l, h with
  | [], _ => rfl
  | [_], _ => rfl

private theorem findPlaces_tooMany {l : List Argument} (h : ¬(places l).length < 2) {a : String}
    (ha : isOption a = false) (rest : List String) :
    findPlaces (placesOf l) (a :: rest) = refuse ("too many options: \"" ++ a ++ "\"") := by
  rw [findPlaces.eq_def]
  simp only [ha, placesOf]
  match places l, h with
  | [], h => exact absurd Nat.two_pos h
  | [_], h => exact absurd Nat.one_lt_two h
  | _ :: _ :: _, _ => rfl

private theorem refuse_apply {α : Type} (message : String) (s : Scene Console) :
    (refuse message : Act Console α) s =
      (.error (.exit 1), { s with world := { s.world with
        past := .wrote .stderr (ArgumentProblem.text.explained message) :: s.world.past } }) := by
  rw [← String.ofList_toList (s := ArgumentProblem.text.explained message)]
  rfl

private theorem findPlaces_option (l : List Argument) {a : String} (ha : isOption a = true)
    (hv : optionName a ∉ valuedOptions) (rest : List String) (s : Scene Console) :
    findPlaces (placesOf l) (a :: rest) s =
      findPlaces (placesOf (l ++ [.option a])) rest
        { s with own := (Argument.option a).prepare s.own } := by
  have hl : placesOf (l ++ [.option a]) = placesOf l := placesOf_concat rfl
  have hc : valuedOptions.contains (optionName a) = false := by simpa using hv
  rw [findPlaces.eq_def]
  simp only [ha, hc, hl, Argument.prepare, Bool.not_true, Bool.false_eq_true, ↓reduceIte]
  split <;> rfl

private theorem findPlaces_missing (p : Places) {a : String} (ha : isOption a = true)
    (hv : optionName a ∈ valuedOptions) :
    findPlaces p [a] = refuse ("missing argument to " ++ a) := by
  have hc : valuedOptions.contains (optionName a) = true := by simpa using hv
  rw [findPlaces.eq_def]
  simp only [ha, hc]
  rfl

private theorem chooseFileSystem_known {name : String} {s : Scene Console}
    (h : name ∈ s.world.script.knownFileSystems) :
    chooseFileSystem name s = (.ok (), { s with own := { s.own with fileSystem := some name } }) := by
  rw [chooseFileSystem, Act.bind_ok (show Act.world s = (.ok s.world, s) from rfl), if_pos h]
  rfl

private theorem chooseFileSystem_unknown {name : String} {s : Scene Console}
    (h : name ∉ s.world.script.knownFileSystems) :
    chooseFileSystem name s = (.error (.exit 1), (ArgumentProblem.noFileSystem name).told s) := by
  rw [chooseFileSystem, Act.bind_ok (show Act.world s = (.ok s.world, s) from rfl), if_neg h,
    ArgumentProblem.told, ← String.ofList_toList (s := (ArgumentProblem.noFileSystem name).text)]
  rfl

private theorem findPlaces_valued (l : List Argument) {a : String} (ha : isOption a = true)
    (hv : optionName a ∈ valuedOptions) {value : String}
    (rest : List String) (s : Scene Console)
    (hfs : ¬(optionName a = "vfs" ∧ value ∉ s.world.script.knownFileSystems)) :
    findPlaces (placesOf l) (a :: value :: rest) s =
      findPlaces (placesOf (l ++ [.valued a value])) rest
        { s with own := (Argument.valued a value).prepare s.own } := by
  have hl : placesOf (l ++ [.valued a value]) = _ := placesOf_concat rfl
  have hc : valuedOptions.contains (optionName a) = true := by simpa using hv
  rw [findPlaces.eq_def]
  simp only [ha, hc, hl, Argument.prepare, Argument.initFile?, Bool.not_true, Bool.false_eq_true,
    ↓reduceIte]
  by_cases hi : optionName a = "init"
  · have hn : optionName a ≠ "vfs" := by rw [hi]; decide
    rw [if_pos hi, if_pos hi, if_neg hn]
    rfl
  · rw [if_neg hi, if_neg hi]
    by_cases hn : optionName a = "vfs"
    · have hmem : value ∈ s.world.script.knownFileSystems := Classical.not_not.mp fun h => hfs ⟨hn, h⟩
      rw [if_pos hn, if_pos hn, Act.bind_ok (chooseFileSystem_known hmem)]
      rfl
    · rw [if_neg hn, if_neg hn]
      rfl

private theorem findPlaces_noFileSystem (p : Places) {a : String} (ha : isOption a = true)
    (hv : optionName a ∈ valuedOptions) {value : String}
    (rest : List String) (s : Scene Console)
    (hfs : optionName a = "vfs" ∧ value ∉ s.world.script.knownFileSystems) :
    findPlaces p (a :: value :: rest) s =
      (.error (.exit 1), (ArgumentProblem.noFileSystem value).told s) := by
  have hi : optionName a ≠ "init" := by rw [hfs.1]; decide
  have hc : valuedOptions.contains (optionName a) = true := by simpa using hv
  rw [findPlaces.eq_def]
  simp only [ha, hc, Bool.not_true, Bool.false_eq_true, ↓reduceIte]
  rw [if_neg hi, if_pos hfs.1, Act.bind_error (chooseFileSystem_unknown hfs.2)]

/-- How the first pass ends behind the arguments `before`, when this is what is read there. -/
def firstPass (before : List Argument) (s : Scene Console) :
    Arguments → Except Failure Places × Scene Console
  | ⟨l, some problem⟩ => (.error (.exit 1), problem.told { s with own := prepared l s.own })
  | ⟨l, none⟩ => (.ok (placesOf (before ++ l)), { s with own := prepared l s.own })

private theorem firstPass_cons (before : List Argument) (s : Scene Console) (x : Argument)
    (r : Arguments) :
    firstPass before s (r.cons x) =
      firstPass (before ++ [x]) { s with own := x.prepare s.own } r := by
  obtain ⟨l, _ | problem⟩ := r
  · simp only [Arguments.cons, firstPass, List.append_assoc, List.singleton_append]
    rfl
  · rfl

/-- The first pass finds the places that the arguments name, and ends at the first problem. -/
theorem findPlaces_eq (n : Nat) (arguments : List String) (before : List Argument)
    (hn : (places before).length = n) (s : Scene Console) :
    findPlaces (placesOf before) arguments s =
      firstPass before s (readArguments s.world.script.knownFileSystems n arguments) := by
  generalize hknown : s.world.script.knownFileSystems = fileSystems
  fun_induction readArguments fileSystems n arguments generalizing before s with
  | case1 n =>
    rw [findPlaces, firstPass, List.append_nil]
    rfl
  | case2 n a rest ha hlt ih =>
    rw [firstPass_cons, findPlaces_place before (hn ▸ hlt) (by simpa using ha)]
    refine ih _ ?_ _ hknown
    rw [places_concat]
    simp [Argument.place?, hn]
  | case3 n a rest ha hlt =>
    rw [findPlaces_tooMany (hn ▸ hlt) (by simpa using ha), refuse_apply]
    rfl
  | case4 n a ha hv =>
    rw [findPlaces_missing _ (by simpa using ha) hv, refuse_apply]
    rfl
  | case5 n a ha hv value rest hfs =>
    rw [findPlaces_noFileSystem _ (by simpa using ha) hv _ _ (hknown ▸ hfs)]
    rfl
  | case6 n a ha hv value rest hfs ih =>
    rw [firstPass_cons, findPlaces_valued before (by simpa using ha) hv _ _ (hknown ▸ hfs)]
    refine ih _ ?_ _ hknown
    rw [places_concat]
    exact (congrArg _ (List.append_nil _)).trans hn
  | case7 n a rest ha hv ih =>
    rw [firstPass_cons, findPlaces_option before (by simpa using ha) hv]
    refine ih _ ?_ _ hknown
    rw [places_concat]
    exact (congrArg _ (List.append_nil _)).trans hn

private theorem applyOptions_valued {a : String} (ha : isOption a = true)
    (hv : optionName a ∈ valuedOptions) (value : String) (rest : List String) :
    applyOptions (a :: value :: rest) =
      (Argument.valued a value).apply >>= fun _ => applyOptions rest := by
  have hname : optionName a = "separator" ∨ optionName a = "nullvalue" ∨ optionName a = "cmd" ∨
      optionName a = "init" ∨ optionName a = "vfs" := by simpa [valuedOptions] using hv
  rw [applyOptions.eq_def, Argument.apply]
  simp only [ha]
  rcases hname with h | h | h | h | h <;> rw [h] <;> rfl

private theorem applyOptions_option {a : String} (ha : isOption a = true)
    (hv : optionName a ∉ valuedOptions) (rest : List String) :
    applyOptions (a :: rest) = (Argument.option a).apply >>= fun _ => applyOptions rest := by
  simp only [valuedOptions, List.mem_cons, not_or] at hv
  obtain ⟨hsep, hnull, hcmd, hinit, hvfs, -⟩ := hv
  rw [applyOptions.eq_def, Argument.apply]
  simp only [ha, hsep, hnull, hcmd, hinit, hvfs, decide_false, Bool.or_self, Bool.not_true,
    Bool.false_eq_true, ↓reduceIte]

/-- The second pass applies the arguments in order, if they can be read to their end. -/
theorem applyOptions_eq (fileSystems : List String) (n : Nat) (arguments : List String)
    (h : (readArguments fileSystems n arguments).problem? = none) :
    applyOptions arguments = (readArguments fileSystems n arguments).found.forM Argument.apply := by
  fun_induction readArguments fileSystems n arguments with
  | case1 n => rfl
  | case2 n a rest ha hlt ih =>
    rw [applyOptions.eq_def]
    simp only [ha, ↓reduceIte]
    exact ih h
  | case3 | case4 | case5 => cases h
  | case6 n a ha hv value rest hfs ih =>
    rw [applyOptions_valued (by simpa using ha) hv, ih h]
    rfl
  | case7 n a rest ha hv ih =>
    rw [applyOptions_option (by simpa using ha) hv, ih h]
    rfl

end SqlConsole.Console

import SqlConsole.Console.Argument
import SqlConsole.Console.Input

/-! What the program does with its arguments. They are gone through twice: before anything is opened
for the places, the set-up file and the file system that they name, and after that for the options
that override the set-up file. -/
namespace SqlConsole.Console

def programName : String := "sqliteshell"

def refuse {α : Type} (message : String) : Act Console α := do
  writeError (programName ++ ": Error: " ++ message ++ "\nUse -help for a list of options.\n")
  Act.fail (.exit 1)

/-- What the first pass over the arguments finds. -/
structure Places where
  database : Option String := none
  /-- What is run instead of reading input. -/
  text : Option String := none
  /-- The last set-up file that is named. -/
  initFile : Option String := none
  deriving DecidableEq, Repr

def chooseFileSystem (name : String) : Act Console Unit := do
  if name ∈ (← Act.world).script.knownFileSystems then
    Act.modifyOwn fun c => { c with fileSystem := some name }
  else do
    writeError ("no such VFS: \"" ++ name ++ "\"\n")
    Act.fail (.exit 1)

/-- The first pass, which ends at the first argument that is not as it should be. What it has found
so far is `p`. -/
def findPlaces (p : Places) : List String → Act Console Places
  | [] => pure p
  | a :: rest =>
    if !isOption a then
      match p.database, p.text with
      | none, _ => findPlaces { p with database := some a } rest
      | some _, none => findPlaces { p with text := some a } rest
      | some _, some _ => refuse ("too many options: \"" ++ a ++ "\"")
    else if valuedOptions.contains (optionName a) then
      match rest with
      | [] => refuse ("missing argument to " ++ a)
      | value :: rest =>
        if optionName a = "init" then findPlaces { p with initFile := some value } rest
        else if optionName a = "vfs" then do
          chooseFileSystem value
          findPlaces p rest
        else findPlaces p rest
    else if optionName a = "batch" then do
      Act.modifyOwn fun c => { c with interactive := false }
      findPlaces p rest
    else findPlaces p rest

def defaultInitFile : String := "home/.sqliterc"

def readInitFile (file? : Option String) : Act Console Outcome := do
  let read (file : String) : Act Console Outcome := do
    match ← Act.openSource? file .unified with
    | some source => do
      if (← Act.own).interactive then writeError ("-- Loading resources from " ++ file ++ "\n")
      readSource source
    | none => do
      writeError ("Error: cannot open \"" ++ file ++ "\"\n")
      pure .error
  match file? with
  | some file => read file
  | none => do
    if (← Act.world).files.hasFile defaultInitFile then read defaultInitFile else pure .success

def usageText : String :=
  "Usage: " ++ programName ++ " [OPTIONS] FILENAME [SQL]\n" ++
  "FILENAME is the name of an SQLite database. A new database is created\n" ++
  "if the file does not previously exist.\n" ++
  "OPTIONS include:\n" ++
  "   -bail                stop after hitting an error\n" ++
  "   -batch               force batch I/O\n" ++
  "   -column              set output mode to 'column'\n" ++
  "   -cmd COMMAND         run \"COMMAND\" before reading stdin\n" ++
  "   -csv                 set output mode to 'csv'\n" ++
  "   -echo                print commands before execution\n" ++
  "   -init FILENAME       read/process named file\n" ++
  "   -[no]header          turn headers on or off\n" ++
  "   -help                show this message\n" ++
  "   -html                set output mode to HTML\n" ++
  "   -interactive         force interactive I/O\n" ++
  "   -line                set output mode to 'line'\n" ++
  "   -list                set output mode to 'list'\n" ++
  "   -nullvalue TEXT      set text string for NULL values. Default ''\n" ++
  "   -separator SEP       set output field separator. Default: '|'\n" ++
  "   -stats               print memory stats before each finalize\n" ++
  "   -version             show SQLite version\n" ++
  "   -vfs NAME            use NAME as the default VFS\n"

/-- Does a text given as an option. If it fails, or asks to stop, the program may end. -/
def runOptionText (text : String) : Act Console Unit := do
  let outcome ← runText text
  if (← Act.own).session.settings.bail then
    match outcome with
    | .success => pure ()
    | .error => Act.fail (.exit 1)
    | .stop => Act.fail (.exit 0)

def applyOption (written : String) (name : String) : Act Console Unit :=
  match name with
  | "html" | "list" | "line" | "column" | "csv" => setMode name none
  | "header" => modifySettings fun s => { s with header := true }
  | "noheader" => modifySettings fun s => { s with header := false }
  | "echo" => modifySettings fun s => { s with echo := true }
  | "stats" => modifySettings fun s => { s with stats := true }
  | "bail" => modifySettings fun s => { s with bail := true }
  | "version" => do
    Act.write .stdout ((← Act.world).script.versionText ++ "\n").toList
    Act.fail (.exit 0)
  | "interactive" => Act.modifyOwn fun c => { c with interactive := true }
  | "batch" => Act.modifyOwn fun c => { c with interactive := false }
  | "help" => do
    writeError usageText
    Act.fail (.exit 1)
  | _ => refuse ("unknown option: " ++ written)

/-- The second pass, which applies the options. Those that the first pass has dealt with are passed
over with their values. -/
def applyOptions : List String → Act Console Unit
  | [] => pure ()
  | a :: rest =>
    if !isOption a then applyOptions rest
    else if optionName a = "init" || optionName a = "vfs" then
      match rest with
      | [] => pure ()
      | _ :: rest => applyOptions rest
    else if optionName a = "separator" then
      match rest with
      | [] => Act.fail .missingValue
      | value :: rest => do
        modifySettings fun s => { s with separator := value }
        applyOptions rest
    else if optionName a = "nullvalue" then
      match rest with
      | [] => Act.fail .missingValue
      | value :: rest => do
        modifySettings fun s => { s with nullvalue := value }
        applyOptions rest
    else if optionName a = "cmd" then
      match rest with
      | [] => Act.fail .missingValue
      | text :: rest => do
        runOptionText text
        applyOptions rest
    else do
      applyOption a (optionName a)
      applyOptions rest

/-- What the arguments named: the database, the set-up files, and the texts that were run. -/
structure Named where
  database : Option String := none
  initFiles : List String := []
  texts : List String := []
  deriving DecidableEq, Repr

/-- Opens the database that is named, if there is a file of that name, so that a mistyped name
leaves no file behind. -/
def nameDatabase (name : String) : Act Console Unit := do
  Act.modifyOwn fun c => { c with filename := some name }
  if (← Act.world).files.hasName name then discard connection

/-- Runs the set-up file. Unless it went well the program ends. -/
def setUp (file? : Option String) : Act Console Unit := do
  match ← readInitFile file? with
  | .success => pure ()
  | outcome => Act.fail (.exit outcome.code)

/-- Runs the text that stands in for input. -/
def runPlacedText (text : String) : Act Console Unit := do
  let outcome ← runText text
  Act.modifyOwn fun c => { c with exitCode := match outcome with | .error => 1 | _ => 0 }

/-- Does what the program's arguments say. -/
def processArguments (arguments : List String) : Act Console Named := do
  if arguments.isEmpty then pure {}
  else do
    let places ← findPlaces {} arguments
    places.database.forM nameDatabase
    setUp places.initFile
    applyOptions arguments
    places.text.forM runPlacedText
    pure
      { database := (← Act.own).filename
        initFiles := places.initFile.toList.filter fun f => !f.isEmpty
        texts := places.text.toList }

end SqlConsole.Console

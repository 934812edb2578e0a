import SqlConsole.Command.Help
import SqlConsole.Console.Choices

/-! Dot commands that write something and change nothing. -/
namespace SqlConsole.Console

def showSettings : Act Console Unit := do
  let session := (← Act.own).session
  (settingLines session).forM (Act.write session.output)

def print (words : List String) : Act Console Unit :=
  writeOutput ([' '].intercalate (words.map String.toList) ++ ['\n'])

def showVersion : Act Console Unit := do
  writeOutput ("SQLite " ++ (← Act.world).script.versionText ++ "\n").toList

/-- Writes the file system that a database is stored in, if the database is open and it has one. -/
def showFileSystem (database : String) : Act Console Unit := do
  if (← Act.own).db.isSome then
    match (← Act.world).script.fileSystem? database with
    | some name => if !name.isEmpty then writeOutput (name.toList ++ ['\n'])
    | none => pure ()

/-- The help on all of the names, or the complaint about the first that has none. -/
private def helpOnAll : List String → Except Complaint (List Command.Topic)
  | [] => .ok []
  | name :: rest =>
    match Command.helpOn? name with
    | some e => (helpOnAll rest).map (e :: ·)
    | none => .error (.noSuchCommand (missing name))
where
  missing (name : String) : String := String.ofList (name.toList.dropWhile (· == '.'))

def showHelp (names : List String) : Act Console Unit :=
  match names, helpOnAll names with
  | [], _ => writeError (String.ofList Command.helpText)
  | _, .ok entries => writeError (String.ofList (entries.flatMap (Command.Topic.text true)))
  | _, .error c => Act.complain c

end SqlConsole.Console

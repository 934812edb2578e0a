import SqlConsole.Console.Startup

/-! The program: from its arguments to its exit code. -/
namespace SqlConsole.Console

def greeting (script : Engine.Script) : String :=
  "SQLite version " ++ script.version ++ " " ++ script.sourceDate ++ "\n" ++
    "Enter \".help\" for instructions\n" ++
    "Enter SQL statements terminated with a \";\"\n"

def historyFile : String := "home/.sqlite_history"

def historyLength : Nat := 100

/-- Reads an input as the console's main one. An interactive one starts with a greeting; if it comes
from the program's own input the history of lines is loaded before it and saved after it. -/
def mainLoop (greeting? : Option String) (ownInput : Bool) (items : List Item) :
    Act Console Outcome := do
  if (← Act.own).interactive then
    let script := (← Act.world).script
    Act.write .stdout (greeting?.getD (greeting script)).toList
    if ownInput then
      Act.event (.readHistory historyFile)
      (readInput true items).ensuring do
        Act.event (.historyLength historyLength)
        Act.event (.writeHistory historyFile)
    else readInput true items
  else readInput false items

/-- Runs the program and gives its exit code. The console is closed in any case. -/
def program (arguments : List String) (input : List Char) : Act Console Int :=
  (do
    let run : Act Console Int := do
      let named ← processArguments arguments
      if named.texts.isEmpty then
        pure ((← mainLoop none true (inputOfText input)).code : Int)
      else pure (← Act.own).exitCode
    match ← Act.attempt run with
    | .ok code => pure code
    | .error (.complaint c) => do
      writeError (programName ++ ": Error: " ++ c.message ++ "\n")
      pure 1
    | .error .interrupted => pure 1
    | .error f => Act.fail f).ensuring closeAll

end SqlConsole.Console

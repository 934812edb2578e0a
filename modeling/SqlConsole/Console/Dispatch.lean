import SqlConsole.Command.Token
import SqlConsole.Console.Backup
import SqlConsole.Console.Catalog
import SqlConsole.Console.Controls
import SqlConsole.Console.Import
import SqlConsole.Console.Reports
import SqlConsole.Console.Sinks
import SqlConsole.Console.Sql

/-! Dot commands: which one a line means, and what it does. -/
namespace SqlConsole.Console

/-- Ends the console with the code that is given, if it is not zero; else reads no further. -/
def exit (argument? : Option String) : Act Console Outcome :=
  match argument? with
  | none => pure .stop
  | some a => do
    let code ← integerArgument a
    if code = 0 then pure .stop else Act.fail (.exit code)

/-- Reads a file as input, which `feed` does. -/
def readFile (feed : Source → Act Console Outcome) (file : String) : Act Console Outcome := do
  match ← Act.openSource? file .unified with
  | none => Act.complain (.cannotOpen file)
  | some source => feed source

/-- Does a dot command, where the number of arguments is one that it accepts. -/
def runCommand (feed : Source → Act Console Outcome) (command : Command)
    (arguments : List String) : Act Console Outcome :=
  let first := arguments.headD ""
  let first? := arguments.head?
  let second? := arguments[1]?
  let done (x : Act Console Unit) : Act Console Outcome := do
    x
    pure .success
  match command with
  | .backup => done (backup arguments)
  | .bail => done (setSwitch (fun b s => { s with bail := b }) first)
  | .breakpoint => pure .success
  | .databases => done showDatabases
  | .dump => done (dump arguments)
  | .echo => done (setSwitch (fun b s => { s with echo := b }) first)
  | .exit => exit first?
  | .explain => done (setExplain first?)
  | .headers => done (setSwitch (fun b s => { s with header := b }) first)
  | .help => done (showHelp arguments)
  | .import_ => done (importFile first (second?.getD ""))
  | .indices => done (showIndexes first?)
  | .load => done (loadExtension first second?)
  | .log => done (setLog first)
  | .mode => done (setMode first second?)
  | .nullvalue => done (modifySettings fun s => { s with nullvalue := first })
  | .output => done (setOutput first)
  | .print => done (print arguments)
  | .prompt => done (modifySettings fun s =>
      { s with mainPrompt := first, continuePrompt := second?.getD s.continuePrompt })
  | .quit => pure .stop
  | .read => readFile feed first
  | .restore =>
    match second? with
    | none => done (restore "main" first)
    | some file => done (restore first file)
  | .schema => done (showSchema first?)
  | .separator => done (modifySettings fun s => { s with separator := first })
  | .show_ => done showSettings
  | .stats => done (setSwitch (fun b s => { s with stats := b }) first)
  | .tables => done (showTables first?)
  | .testctrl => done (runTestControl first (arguments.length - 1))
  | .timeout => done (setTimeout first)
  | .timer => done (setSwitch (fun b s => { s with timer := b }) first)
  | .trace => done (setTrace first)
  | .version => done showVersion
  | .vfsname => done (showFileSystem (first?.getD "main"))
  | .width => done (setWidths arguments)

/-- Does the dot command of a line, and reports its failure if it is one for the user. -/
def dotLine (feed : Source → Act Console Outcome) (line : List Char) : Act Console Outcome :=
  match (Command.words line).map String.ofList with
  | [] => pure .success
  | typed :: arguments =>
    match Command.find? typed arguments.length with
    | none => do
      writeError ("Error: unknown command or invalid arguments:  \"" ++ typed ++
        "\". Enter \".help\" for help\n")
      pure .error
    | some command => do
      match ← Act.attempt (runCommand feed command arguments) with
      | .ok outcome => pure outcome
      | .error f =>
        match f.message? with
        | some message => do
          writeError ("Error: " ++ message ++ "\n")
          pure .error
        | none => Act.fail f

end SqlConsole.Console

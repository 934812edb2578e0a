import SqlConsole.Execute.Query
import SqlConsole.Execute.Statistics
import SqlConsole.Statement.Split

/-! SQL text run statement by statement. -/
namespace SqlConsole.Execute

variable {σ : Type}

/-- Does an action while statements are counted, and gives what they counted. -/
def counted (x : Act σ Unit) : Act σ Engine.Counters := do
  Act.modifyWorld fun w => { w with counting := some {} }
  let ending ← Act.attempt x
  let c := (← Act.world).counting.getD {}
  Act.modifyWorld fun w => { w with counting := none }
  match ending with
  | .ok _ => pure c
  | .error e => Act.fail e

def setStatement (t : Option String) : Act σ Unit :=
  Act.modifyWorld fun w => { w with statement := t }

/-- Makes a statement the one that is being run, and echoes it if the session says so. -/
def announce (session : Session) (statement : List Char) : Act σ Unit := do
  setStatement (some (String.ofList statement))
  if session.settings.echo then Act.write session.output (Text.trim statement ++ ['\n'])

/-- Gives a statement to the engine, and each of its rows to `each`. -/
def deliver (session : Session) (db : Connection) (each : Layout.Row → Act σ Bool)
    (statement : List Char) : Act σ Unit :=
  query session db (String.ofList statement) [] fun columns index values =>
    each { columns, values, typed := true, index := index }

/-- Runs one statement. It is echoed first and its statistics are written last, if the session says
so. -/
def runStatement (session : Session) (db : Connection) (each : Layout.Row → Act σ Bool)
    (statement : List Char) : Act σ Unit := do
  announce session statement
  if session.settings.stats then
    let c ← counted (deliver session db each statement)
    writeStatistics session true (some c)
  else deliver session db each statement

/-- What comes of the way a statement ended, and whether the engine refused it. That is reported, or
ends the action where there is no report. -/
def settle (report? : Option (Engine.Error → Act σ Unit)) : Except Failure Unit → Act σ Bool
  | .ok _ => pure false
  | .error (.engine e) =>
    match report? with
    | some report => do
      report e
      pure true
    | none => Act.fail (.engine e)
  | .error f => Act.fail f

/-- Runs one statement and settles its end, and tells whether the engine refused it. Afterwards no
statement is being run. -/
def turn (session : Session) (db : Connection) (each : Layout.Row → Act σ Bool)
    (report? : Option (Engine.Error → Act σ Unit)) (statement : List Char) : Act σ Bool :=
  (do
    let ending ← Act.attempt (runStatement session db each statement)
    settle report? ending).ensuring (setStatement none)

/-- Runs statements in order up to the first that the engine refuses, and gives the number of those
that failed. -/
def runAll (session : Session) (db : Connection) (each : Layout.Row → Act σ Bool)
    (report? : Option (Engine.Error → Act σ Unit)) : List (List Char) → Act σ Nat
  | [] => pure 0
  | q :: qs => do
    if ← turn session db each report? q then pure 1 else runAll session db each report? qs

/-- Runs SQL text. Every row is given to `each`, which may stop the statement's rows. Statements are
run as they are found, so those before one that does not come to an end are run all the same. -/
def run (session : Session) (db : Connection) (each : Layout.Row → Act σ Bool)
    (report? : Option (Engine.Error → Act σ Unit)) (sql : String) : Act σ Nat := do
  let failed ← runAll session db each report? (Statement.runnable sql.toList)
  if failed = 0 && !Statement.isSettled sql.toList then Act.fail .zeroCharacter
  pure failed

end SqlConsole.Execute

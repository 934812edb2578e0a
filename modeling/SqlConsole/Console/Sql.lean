import SqlConsole.Console.Basic
import SqlConsole.Dump
import SqlConsole.Execute.Run
import SqlConsole.Layout.Columns

/-! SQL text and dumps, run on the console's database. -/
namespace SqlConsole.Console

/-- Tells what was used of time and memory, if the session says so. -/
def tellUsage (session : Session) : Act Console Unit := do
  if session.settings.timer then
    let usage := (← Act.world).usage
    Act.modifyWorld fun w => { w with usage := usage.tail }
    (usage.headD []).forM fun text => Act.write session.output text.toList

/-- Runs SQL text and shows what it gives. Errors are reported, with the number of a line if one is
given. However it ends, what it used is told last. -/
def runSql (sql : String) (line? : Option Int) : Act Console Nat := do
  match ← Act.attempt connection with
  | .error (.complaint c) => do
    writeError ("Error: " ++ c.message ++ "\n")
    pure 1
  | .error f => Act.fail f
  | .ok db => do
    let session := (← Act.own).session
    let place :=
      match line? with
      | none => "Error: "
      | some n => "Error: near line " ++ String.ofList (Sql.integerText n) ++ ": "
    let report (e : Engine.Error) : Act (List Int) Unit :=
      Act.write .stderr (place ++ e.message ++ "\n").toList
    (Act.within ([] : List Int) (Execute.run session db
      (fun row => do
        Layout.writeRow session row
        pure false)
      (some report) sql)).ensuring (tellUsage session)

def dump (patterns : List String) : Act Console Unit := do
  let db ← connection
  let session := (← Act.own).session
  Act.within ({} : Dump.Tally) (discard (Dump.script session db patterns))

end SqlConsole.Console

import SqlConsole.Console.Basic
import SqlConsole.Delimited.Record
import SqlConsole.Execute.Query

/-! Reading delimited files into tables. -/
namespace SqlConsole.Console

open Sql (Value)

def insertRecord (session : Session) (db : Connection) (file sql : String) (columns : Nat)
    (r : Delimited.Record) : Act Console Unit := do
  let fields := Delimited.fields session.settings.separator.toList r.text
  if fields.length ≠ columns then Act.complain (.fieldCount file r.line columns fields.length)
  else Execute.perform session db sql (fields.map fun f => .text (String.ofList f))

/-- Gives the records of a file to `insert`, one after the other, reading at most `fuel` lines. -/
def insertRecords (insert : Delimited.Record → Act Console Unit) :
    (fuel : Nat) → Delimited.Gathering → Source → Act Console Unit
  | 0, _, _ => Act.fail .endless
  | fuel + 1, g, source => do
    match ← Act.readLine source with
    | ([], source) =>
      match g.last? with
      | none => pure ()
      | some r => do
        insert r
        insertRecords insert fuel g.clear source
    | (line, source) => do
      (g.add line).1.forM insert
      insertRecords insert fuel (g.add line).2 source

/-- Inserts the records of a file in one transaction, which is undone if anything fails. -/
def insertAll (session : Session) (db : Connection) (file sql : String) (columns : Nat)
    (source : Source) : Act Console Unit := do
  Execute.perform session db "BEGIN" []
  let insert := insertRecord session db file sql columns
  match ← Act.attempt (do insertRecords insert (← Act.lineLimit source) {} source) with
  | .ok _ => Execute.perform session db "COMMIT" []
  | .error f => do
    Execute.perform session db "ROLLBACK" []
    Act.fail f

/-- Reads a file into a table. Both statements are prepared before the file is opened; a table
without columns takes nothing. -/
def importFile (file table : String) : Act Console Unit := do
  if (← Act.own).session.settings.separator.isEmpty then Act.complain .emptySeparator
  else do
    let db ← connection
    let session := (← Act.own).session
    let columns ← Execute.columnCount session ("SELECT * FROM " ++ table) []
    if columns ≠ 0 then
      let marks := [','].intercalate (List.replicate columns ['?'])
      let sql := "INSERT INTO " ++ table ++ " VALUES(" ++ String.ofList marks ++ ")"
      let _ ← Execute.columnCount session sql (List.replicate columns Value.null)
      match ← Act.openSource? file .kept with
      | none => Act.complain (.cannotOpen file)
      | some source => insertAll session db file sql columns source

end SqlConsole.Console

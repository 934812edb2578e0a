import SqlConsole.Console.Basic
import SqlConsole.Execute.Query
import SqlConsole.Layout.Columns
import SqlConsole.Text.Lower

/-! Dot commands that list what a database holds. -/
namespace SqlConsole.Console

open Sql (Value)

/-- Shows the rows of a query in a layout of its own; the session stays as it is. -/
def showQuery (change : Settings → Settings) (sql : String) (bindings : List Value) :
    Act Console Unit := do
  let db ← connection
  let session := (← Act.own).session
  let shown := { session with settings := change session.settings }
  Act.within ([] : List Int) (Execute.catalog session db sql bindings fun row => do
    Layout.writeRow shown row
    pure false)

def showDatabases : Act Console Unit :=
  showQuery (fun s => { s with header := true, mode := .column, widths := [3, 15, 58] })
    "PRAGMA database_list" []

def indexesQuery : String :=
  "SELECT name FROM sqlite_master WHERE type='index' AND name NOT LIKE 'sqlite_%' " ++
    "UNION ALL SELECT name FROM sqlite_temp_master WHERE type='index' ORDER BY 1"

def likeIndexesQuery : String :=
  "SELECT name FROM sqlite_master WHERE type='index' AND tbl_name LIKE ?1 " ++
    "UNION ALL SELECT name FROM sqlite_temp_master WHERE type='index' AND tbl_name LIKE ?1 " ++
    "ORDER BY 1"

def showIndexes (pattern? : Option String) : Act Console Unit :=
  let change (s : Settings) : Settings := { s with header := false, mode := .list }
  match pattern? with
  | none => showQuery change indexesQuery []
  | some p => showQuery change likeIndexesQuery [.text p]

/-- What the queries for schema text have in common. -/
private def schemaUnion : String :=
  "SELECT sql FROM " ++
    "  (SELECT sql sql, type type, tbl_name tbl_name, name name, rowid x" ++
    "     FROM sqlite_master UNION ALL" ++
    "   SELECT sql, type, tbl_name, name, rowid FROM sqlite_temp_master) "

def schemaQuery : String :=
  schemaUnion ++ "WHERE type!='meta' AND sql NOTNULL AND name NOT LIKE 'sqlite_%' ORDER BY x"

def likeSchemaQuery : String :=
  schemaUnion ++ "WHERE lower(tbl_name) LIKE ?1 AND type!='meta' AND sql NOTNULL ORDER BY x"

/-- The schema of the catalog itself, which the catalog does not list. -/
def catalogSchema? (name : String) : Option String :=
  if name = "sqlite_master" then
    some ("CREATE TABLE sqlite_master " ++
      "(type text, name text, tbl_name text, rootpage integer, sql text)")
  else if name = "sqlite_temp_master" then
    some ("CREATE TEMP TABLE sqlite_temp_master (type text, name text, tbl_name text, " ++
      "rootpage integer, sql text)")
  else none

def schemaSettings (s : Settings) : Settings := { s with header := false, mode := .semi }

def showSchema (pattern? : Option String) : Act Console Unit :=
  match pattern? with
  | none => showQuery schemaSettings schemaQuery []
  | some p => do
    let name := String.ofList (Text.lower p.toList)
    match catalogSchema? name with
    | some sql => do
      let session := (← Act.own).session
      Act.within ([] : List Int) (Layout.writeRow
        { session with settings := schemaSettings session.settings }
        { columns := ["sql"], values := [.text sql], typed := true, index := 0 })
    | none => showQuery schemaSettings likeSchemaQuery [.text name]

/-- The query for the tables of one more database, after that for the main one. -/
def attachedTables (database : List Char) : List Char :=
  if database = "temp".toList then
    (" UNION ALL SELECT 'temp.' || name FROM sqlite_temp_master " ++
      "WHERE type IN ('table','view') AND name NOT LIKE 'sqlite_%' AND name LIKE ?1").toList
  else
    " UNION ALL SELECT ".toList ++ Sql.quoteString (database ++ ['.']) ++ " || name FROM ".toList ++
      Sql.quoteIdentifier database ++ (".sqlite_master " ++
      "WHERE type IN ('table','view') AND name NOT LIKE 'sqlite_%' AND name LIKE ?1").toList

def tablesQuery (databases : List (List Char)) : List Char :=
  ("SELECT name FROM sqlite_master WHERE type IN ('table','view') " ++
      "AND name NOT LIKE 'sqlite_%' AND name LIKE ?1").toList ++
    (databases.filter fun d => !d.isEmpty && d != "main".toList).flatMap attachedTables ++
    " ORDER BY 1".toList

private def databaseName : List Value → Except RowFault (List Char)
  | [_, name, _] => (Execute.textOf name).map String.toList
  | _ => .error .count

private def shownName : Value → Except RowFault (List Char)
  | .text t => .ok t.toList
  | _ => .error .noName

def listWidth : Nat := 80

/-- How many lines it takes to list names in columns as long as the longest and two blanks. -/
def listLines (names : List (List Char)) : Nat :=
  let longest := names.foldl (fun n s => max n s.length) 0
  let columns := max (listWidth / (longest + 2)) 1
  (names.length + columns - 1) / columns

/-- The line with number `i` of a list: every name whose place leaves the remainder `i`. -/
def listLine (names : List (List Char)) (i : Nat) : List Char :=
  let longest := names.foldl (fun n s => max n s.length) 0
  let height := listLines names
  let here := names.zipIdx.filter fun (_, j) => j % height == i
  [' ', ' '].intercalate (here.map fun (s, _) => Text.padRight longest s) ++ ['\n']

def showTables (pattern? : Option String) : Act Console Unit := do
  let db ← connection
  let session := (← Act.own).session
  let databases ← Execute.gather session db "PRAGMA database_list" [] databaseName
  let sql := String.ofList (tablesQuery databases)
  let values ← Execute.gather session db sql [.text (pattern?.getD "%")] (Execute.valueAt 0)
  let names ← Execute.require (values.mapM shownName)
  (List.range (listLines names)).forM fun i => Act.write session.output (listLine names i)

end SqlConsole.Console

import SqlConsole.Execute.Query
import SqlConsole.Sql.Literal

/-! A script that creates a database anew. Errors on the way become comments, and the script then
ends by undoing itself. Where the database is corrupt a query is made a second time in reverse,
which may reach rows that the first did not. -/
namespace SqlConsole.Dump

open Sql (Value quoteString quoteIdentifier)

def tablesQuery : String :=
  "SELECT name, type, sql FROM sqlite_master " ++
    "WHERE sql NOT NULL AND type=='table' AND name!='sqlite_sequence'"

/-- The table of automatic keys. -/
def sequenceQuery : String :=
  "SELECT name, type, sql FROM sqlite_master WHERE name=='sqlite_sequence'"

/-- Indexes, triggers and views. -/
def othersQuery : String :=
  "SELECT sql FROM sqlite_master WHERE sql NOT NULL AND type IN ('index','trigger','view')"

def likeTablesQuery : String :=
  "SELECT name, type, sql FROM sqlite_master " ++
    "WHERE tbl_name LIKE ?1 AND type=='table' AND sql NOT NULL"

def likeOthersQuery : String :=
  "SELECT sql FROM sqlite_master WHERE sql NOT NULL " ++
    "AND type IN ('index','trigger','view') AND tbl_name LIKE ?1"

def reversed (query : String) : String := query ++ " ORDER BY rowid DESC"

structure Tally where
  errors : Nat := 0
  /-- The script has been made to write to the catalog. -/
  catalogWritable : Bool := false
  deriving DecidableEq, Repr

variable (session : Session) (db : Connection)

def put (text : List Char) : Act Tally Unit := Act.write session.output text

def putLine (text : String) : Act Tally Unit := put session (text.toList ++ ['\n'])

def countError : Act Tally Unit := Act.modifyOwn fun t => { t with errors := t.errors + 1 }

def catalogErrorText (e : Engine.Error) : List Char :=
  "/****** ERROR: ".toList ++ e.message.toList ++ " ******/\n".toList

def corruptionText (e : Engine.Error) : List Char :=
  "/****** CORRUPTION ERROR *******/\n".toList ++
    "/****** ".toList ++ e.message.toList ++ " ******/\n".toList

/-- The error of a query for rows as a comment, with its code or else -1. -/
def rowErrorText (e : Engine.Error) : List Char :=
  "/**** ERROR: (".toList ++ Sql.integerText (e.code.getD (-1)) ++ ") ".toList ++
    e.message.toList ++ " *****/\n".toList

def lastLine (text : List Char) : List Char :=
  (text.reverse.takeWhile (· != '\n')).reverse

def hasDashes : List Char → Bool
  | '-' :: '-' :: _ => true
  | _ :: r => hasDashes r
  | [] => false

/-- A row as a statement: its values with commas between them. The semicolon goes to a line of its
own when a comment might hide it. -/
def rowStatement (values : List Value) : List Char :=
  let text := [','].intercalate (values.map (·.shown []))
  text ++ if hasDashes (lastLine text) then ['\n', ';', '\n'] else [';', '\n']

/-- Writes each row of a query as a statement, `opening` before the first. An error is written as a
comment and given back. -/
def rows (query : String) (opening : List Char) (bindings : List Value) :
    Act Tally (Option Engine.Error) := do
  let each (index : Nat) (values : List Value) : Act Tally Bool := do
    if index = 0 && !opening.isEmpty then put session opening
    put session (rowStatement values)
    pure false
  match ← Act.attempt (Execute.query session db query bindings fun _ => each) with
  | .ok _ => pure none
  | .error (.engine e) => do
    put session (rowErrorText e)
    countError
    pure (some e)
  | .error f => Act.fail f

def contentText (table : List Char) (columns : List (List Char)) : List Char :=
  "SELECT 'INSERT INTO ' || ".toList ++ quoteString (quoteIdentifier table) ++
    " || ' VALUES(' || ".toList ++
    [',', ' '].intercalate (columns.map fun c => "quote(".toList ++ quoteIdentifier c ++ [')']) ++
    " || ')' FROM  ".toList ++ quoteIdentifier table

/-- The query whose rows insert the content of a table; none for a table without columns. -/
def contentQuery (table : String) : Act Tally (Option String) := do
  let pragma := "PRAGMA table_info(".toList ++ quoteIdentifier table.toList ++ [')', ';']
  let columns ← Execute.gather session db (String.ofList pragma) [] (Execute.valueAt 1)
  if columns.isEmpty then pure none
  else do
    let names ← Execute.require (columns.mapM Execute.textOf)
    pure (some (String.ofList (contentText table.toList (names.map String.toList))))

/-- Writes the content of a table. If the database proves corrupt the rows are written in reverse
as well. -/
def content (table : String) (opening : List Char) : Act Tally Unit := do
  match ← contentQuery session db table with
  | none => countError
  | some query =>
    match ← rows session db query opening [] with
    | some e => if e.kind = .corrupt then discard (rows session db (reversed query) [] [])
    | none => pure ()

/-- A virtual table is put into the catalog as it is. -/
def virtualTableText (name sql : List Char) : List Char :=
  "INSERT INTO sqlite_master(type, name, tbl_name, rootpage, sql) VALUES('table', ".toList ++
    quoteString name ++ [',', ' '] ++ quoteString name ++ ", 0, ".toList ++ quoteString sql ++
    [')', ';', '\n']

def isVirtualTable (sql : String) : Bool :=
  "CREATE VIRTUAL TABLE".toList.isPrefixOf sql.toList

/-- Writes what creates an object of the catalog, and the content of a table. Of the tables that the
engine keeps for itself only those of keys and of statistics are written. -/
def object (name kind sql : Value) : Act Tally Unit := do
  let contentOf (table : String) (opening : List Char) : Act Tally Unit :=
    if kind = .text "table" then content session db table opening else pure ()
  match name with
  | .text "sqlite_sequence" =>
    contentOf "sqlite_sequence" "DELETE FROM sqlite_sequence;\n".toList
  | .text "sqlite_stat1" => do
    putLine session "ANALYZE sqlite_master;"
    contentOf "sqlite_stat1" []
  | _ => do
    let name ← Execute.require (Execute.textOf name)
    if !"sqlite_".toList.isPrefixOf name.toList then
      let sql ← Execute.require (Execute.textOf sql)
      if isVirtualTable sql then
        if !(← Act.own).catalogWritable then
          putLine session "PRAGMA writable_schema=ON;"
          Act.modifyOwn fun t => { t with catalogWritable := true }
        put session (virtualTableText name.toList sql.toList)
      else
        putLine session (sql ++ ";")
        contentOf name []

def listed (query : String) (bindings : List Value) : Act Tally Unit :=
  Execute.query session db query bindings fun _ _ values => do
    match values with
    | [name, kind, sql] => object session db name kind sql
    | _ => Act.fail (.catalogRow .count)
    pure false

/-- Writes the objects that a catalog query lists. If the catalog proves corrupt the query is made
once more in reverse. -/
def objects (query : String) (bindings : List Value) : Act Tally Unit := do
  let report (e : Engine.Error) : Act Tally Unit := do
    put session (catalogErrorText e)
    countError
  match ← Act.attempt (listed session db query bindings) with
  | .ok _ => pure ()
  | .error (.engine e) =>
    if e.kind = .corrupt then
      put session (corruptionText e)
      match ← Act.attempt (listed session db (reversed query) bindings) with
      | .ok _ => pure ()
      | .error (.engine e) => report e
      | .error f => Act.fail f
    else report e
  | .error f => Act.fail f

def body (patterns : List String) : Act Tally Unit :=
  match patterns with
  | [] => do
    objects session db tablesQuery []
    objects session db sequenceQuery []
    discard (rows session db othersQuery [] [])
  | _ =>
    patterns.forM fun p => do
      objects session db likeTablesQuery [.text p]
      discard (rows session db likeOthersQuery [] [.text p])

/-- Leaves the catalog as it was found. -/
def release : Act Tally Unit := do
  if (← Act.own).catalogWritable then
    putLine session "PRAGMA writable_schema=OFF;"
    Act.modifyOwn fun t => { t with catalogWritable := false }
  Execute.perform session db "PRAGMA writable_schema=OFF; RELEASE dump;" []

/-- Writes the whole script to the session's output and gives the number of errors. -/
def script (patterns : List String) : Act Tally Nat := do
  Act.modifyOwn fun _ => {}
  putLine session "PRAGMA foreign_keys=OFF;"
  putLine session "BEGIN TRANSACTION;"
  Execute.perform session db "SAVEPOINT dump; PRAGMA writable_schema=ON" []
  (body session db patterns).ensuring (release session db)
  let errors := (← Act.own).errors
  putLine session (if errors = 0 then "COMMIT;" else "ROLLBACK; -- due to errors")
  pure errors

end SqlConsole.Dump

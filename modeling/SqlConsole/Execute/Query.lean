import SqlConsole.Layout.Row

/-! One SQL text given to the engine, and its rows taken one after the other. -/
namespace SqlConsole.Execute

open Engine (Answer)

variable {σ : Type}

/-- Passes a message of the engine's log on. -/
def tell (session : Session) (notice : Int × String) : Act σ Unit :=
  match session.log with
  | none => pure ()
  | some k => do
    Act.write k ('(' :: Sql.integerText notice.1 ++ [')', ' '] ++ notice.2.toList ++ ['\n'])
    Act.flush k

/-- Passes the messages of an answer on, where the console asked for them. -/
def tellAll (session : Session) (logging : Bool) (a : Answer) : Act σ Unit :=
  if logging then a.notices.forM (tell session) else pure ()

/-- What keeps a statement from starting. -/
def permit (a : Answer) : Act σ Unit :=
  if a.rows.isNone then Act.raise a.fault else pure ()

/-- The engine's answer to a text. Its messages come first; then what keeps the statement from
starting. -/
def consult (session : Session) (sql : String) : Act σ Answer := do
  let w ← Act.world
  Act.modifyWorld fun w => { w with script := (w.script.answer sql).2 }
  let a := (w.script.answer sql).1
  tellAll session w.logging a
  permit a
  pure a

def count (c : Engine.Counters) : Act σ Unit :=
  Act.modifyWorld fun w => { w with counting := w.counting.map (·.add c) }

/-- The end of a statement, where it may fail. -/
def finish (a : Answer) : Act σ Unit := do
  count a.counters
  Act.raise a.fault

/-- Writes a text that the engine has begun to run, where statements are traced. -/
def trace (session : Session) (db : Connection) (sql : String) : Act σ Unit :=
  match db.traced, session.trace with
  | true, some k => Act.write k (sql.toList ++ ['\n'])
  | _, _ => pure ()

/-- Gives a text to the engine, which answers unless it refuses the text. -/
def submit (session : Session) (db : Connection) (sql : String) (bindings : List Sql.Value) :
    Act σ Answer := do
  Act.event (.execute sql bindings)
  let a ← consult session sql
  Act.note (.began sql)
  trace session db sql
  pure a

/-- Gives a text to the engine and takes no rows. Without rows the statement is at its end at
once. -/
def perform (session : Session) (db : Connection) (sql : String)
    (bindings : List Sql.Value) : Act σ Unit := do
  let a ← submit session db sql bindings
  if (a.rows.getD []).isEmpty then finish a

/-- Takes rows until one stops, and tells whether none did. Rows are numbered from `index`. -/
def takeRows (each : Nat → List Sql.Value → Act σ Bool) (index : Nat) :
    List (List Sql.Value) → Act σ Bool
  | [] => pure true
  | values :: rest => do
    if ← each index values then pure false else takeRows each (index + 1) rest

/-- The end of a statement before its last row. -/
def abandon (a : Answer) : Act σ Unit := do
  Act.event .abandon
  count a.counters

/-- Gives a text to the engine and takes its rows. A row that stops ends the statement, so that
what comes after it is not seen. -/
def query (session : Session) (db : Connection) (sql : String) (bindings : List Sql.Value)
    (each : List String → Nat → List Sql.Value → Act σ Bool) : Act σ Unit := do
  let a ← submit session db sql bindings
  if ← takeRows (each a.columns) 0 (a.rows.getD []) then finish a else abandon a

/-- What `pick` makes of each row of a text. A row that it refuses ends the action there. -/
def gather {α : Type} (session : Session) (db : Connection) (sql : String)
    (bindings : List Sql.Value) (pick : List Sql.Value → Except RowFault α) : Act σ (List α) :=
  Act.within ([] : List α) do
    query session db sql bindings fun _ _ values =>
      match pick values with
      | .ok a => do
        Act.modifyOwn (a :: ·)
        pure false
      | .error f => Act.fail (.catalogRow f)
    pure (← Act.own).reverse

def valueAt (i : Nat) (values : List Sql.Value) : Except RowFault Sql.Value :=
  match values[i]? with
  | some v => .ok v
  | none => .error .missing

def textOf : Sql.Value → Except RowFault String
  | .text t => .ok t
  | .blob _ => .error .blob
  | _ => .error .noText

/-- Goes on with what a row holds, if it is as it should be. -/
def require {α : Type} : Except RowFault α → Act σ α
  | .ok a => pure a
  | .error f => Act.fail (.catalogRow f)

/-- Runs a text for the console's own use, its rows without storage classes. -/
def catalog (session : Session) (db : Connection) (sql : String) (bindings : List Sql.Value)
    (each : Layout.Row → Act σ Bool) : Act σ Unit :=
  query session db sql bindings fun columns index values =>
    each { columns, values, typed := false, index := index }

/-- How many columns a text has, without running it. -/
def columnCount (session : Session) (sql : String) (bindings : List Sql.Value) : Act σ Nat := do
  Act.event (.prepare sql bindings)
  let a ← consult session sql
  pure a.columns.length

end SqlConsole.Execute

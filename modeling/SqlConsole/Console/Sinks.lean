import SqlConsole.Console.Basic

/-! Dot commands that choose where text goes. -/
namespace SqlConsole.Console

/-- Installs another sink for results; the one before is closed. -/
def installOutput (k : Sink) : Act Console Unit := do
  let old := (← Act.own).session.output
  modifySession fun s => { s with output := k }
  if old ≠ k then Act.close old

/-- Sends results to a file, or to a command after a bar. Standard output is installed first, so
that results go there if the file cannot be opened. -/
def setOutput (target : String) : Act Console Unit := do
  installOutput .stdout
  if target = "stdout" ∨ target = "off" then pure ()
  else
    match target.toList with
    | '|' :: command => do installOutput (← Act.openCommand (String.ofList command))
    | _ => do installOutput (← Act.openFile target)

/-- The sink of that name: one of the standard streams, none, or a file. -/
def openSink? (name : String) : Act Console (Option Sink) :=
  if name = "stdout" then pure (some .stdout)
  else if name = "stderr" then pure (some .stderr)
  else if name = "off" then pure none
  else do pure (some (← Act.openFile name))

private def installLog (k : Option Sink) : Act Console Unit := do
  (← Act.own).session.log.forM Act.close
  modifySession fun s => { s with log := k }
  Act.modifyWorld fun w => { w with logging := k.isSome }

/-- Sends the messages of the engine's log to a sink. Without one that can be opened there is no
log. -/
def setLog (name : String) : Act Console Unit := do
  match ← Act.attempt (openSink? name) with
  | .ok k => installLog k
  | .error (.complaint c) => do
    installLog none
    Act.complain c
  | .error f => Act.fail f

private def installTrace (k : Option Sink) : Act Console Unit := do
  (← Act.own).session.trace.forM Act.close
  modifySession fun s => { s with trace := k }
  let db ← connection
  Act.modifyOwn fun c => { c with db := some { db with traced := k.isSome } }

/-- Writes statements to a sink as they are run. Without one that can be opened none are written. -/
def setTrace (name : String) : Act Console Unit := do
  match ← Act.attempt (openSink? name) with
  | .ok k => installTrace k
  | .error (.complaint c) => do
    installTrace none
    Act.complain c
  | .error f => Act.fail f

end SqlConsole.Console

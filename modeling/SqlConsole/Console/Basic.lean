import SqlConsole.Session.Basic

/-! The console: a session, and the database that it works on. -/
namespace SqlConsole

structure Console where
  session : Session := {}
  /-- The connection, once the database has been opened. -/
  db : Option Connection := none
  filename : Option String := none
  fileSystem : Option String := none
  /-- The user has stopped what was going on, and input that is not interactive is to end. -/
  interrupted : Bool := false
  interactive : Bool := false
  exitCode : Int := 0
  deriving DecidableEq, Repr

namespace Console

/-- How commands and input end: whether to go on, and whether there were errors. -/
inductive Outcome where
  | success
  | error
  /-- No more input is to be read. -/
  | stop
  deriving DecidableEq, Repr

def Outcome.code : Outcome → Nat
  | success => 0
  | error => 1
  | stop => 2

def modifySession (f : Session → Session) : Act Console Unit :=
  Act.modifyOwn fun c => { c with session := f c.session }

def modifySettings (f : Settings → Settings) : Act Console Unit :=
  modifySession fun s => { s with settings := f s.settings }

def writeOutput (text : List Char) : Act Console Unit := do
  Act.write (← Act.own).session.output text

def writeError (text : String) : Act Console Unit := Act.write .stderr text.toList

def memoryName : String := ":memory:"

/-- The connection to the database, which is opened if it is not open yet. -/
def connection : Act Console Connection := do
  let c ← Act.own
  match c.db with
  | some db => pure db
  | none => do
    let name := c.filename.getD ""
    let filename := if name.isEmpty then memoryName else name
    Act.modifyOwn fun c => { c with filename := some filename }
    Act.event (.openMain filename c.fileSystem)
    match (← Act.world).script.openFault? filename with
    | some (.error e) => Act.complain (.cannotOpenDatabase filename e.message)
    | some .interrupted => Act.fail .interrupted
    | none => do
      let db : Connection := { filename }
      Act.modifyOwn fun c => { c with db := some db }
      pure db

/-- Closes the sinks of the session, one after the other. -/
def closeSession : Act Console Unit := do
  let session := (← Act.own).session
  session.trace.forM Act.close
  modifySession fun s => { s with trace := none }
  session.log.forM Act.close
  modifySession fun s => { s with log := none }
  Act.close session.output
  modifySettings fun s => { s with table := none }

def closeAll : Act Console Unit := do
  let c ← Act.own
  if c.session.log.isSome then Act.modifyWorld fun w => { w with logging := false }
  closeSession
  match c.db with
  | some db => do
    Act.event (.close db.filename)
    Act.modifyOwn fun c => { c with db := none }
  | none => pure ()

/-- Stops what is going on: the engine is told, and a user at the keyboard sees a mark. -/
def interrupt (interactive : Bool) : Act Console Unit := do
  Act.modifyOwn fun c => { c with interrupted := true }
  if (← Act.own).db.isSome then Act.event .interrupt
  if interactive then writeError "^C\n"

end Console

end SqlConsole

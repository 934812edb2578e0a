import SqlConsole.Console.Basic

/-! Copying databases page by page. -/
namespace SqlConsole.Console

def pagesPerStep : Nat := 100

def busyRetries : Nat := 3

def busyMilliseconds : Nat := 100

/-- Takes steps until one ends the copy. `taken` of the answers have been given, and `retries` steps
have been tried again. An answer that asks for more for ever never ends the copy. -/
def copySteps {σ : Type} (answers : List Engine.StepAnswer) :
    (fuel taken retries : Nat) → Act σ Unit
  | 0, _, _ => Act.fail .endless
  | fuel + 1, taken, retries => do
    Act.event (.step pagesPerStep)
    match (answers[taken]?.or answers.getLast?).getD .done with
    | .done => pure ()
    | .more => copySteps answers fuel (taken + 1) retries
    | .fault .interrupted => Act.fail .interrupted
    | .fault (.error e) =>
      if e.kind.isTransient then
        if retries < busyRetries then do
          Act.event (.sleep busyMilliseconds)
          copySteps answers fuel (taken + 1) (retries + 1)
        else Act.complain .sourceBusy
      else Act.fail (.engine e)

def copyDatabase {σ : Type} (target targetDb source sourceDb : String) : Act σ Unit := do
  Act.event (.backup target targetDb source sourceDb)
  let (answer, script) := (← Act.world).script.backup
  Act.modifyWorld fun w => { w with script }
  match answer with
  | .refused f => Act.fail (.ofFault f)
  | .steps answers =>
    (copySteps answers (answers.length + busyRetries + 1) 0 0).ensuring (Act.event .finish)

def openOther (filename : String) : Act Console Unit := do
  Act.event (.openOther filename)
  match (← Act.world).script.openFault? filename with
  | some (.error _) => Act.complain (.cannotOpen filename)
  | some .interrupted => Act.fail .interrupted
  | none => pure ()

structure BackupRequest where
  database : Option String := none
  file : Option String := none
  deriving DecidableEq, Repr

/-- Reads the arguments of a backup. A key may be given, but is not used. -/
def BackupRequest.ofArguments (q : BackupRequest) :
    List String → Except Complaint BackupRequest
  | [] => .ok q
  | a :: rest =>
    if ['-'].isPrefixOf a.toList then
      if a.toList.dropWhile (· == '-') = ['k', 'e', 'y'] then
        match rest with
        | _ :: rest => ofArguments q rest
        | [] => .error (.unknownOption a)
      else .error (.unknownOption a)
    else
      match q.file, q.database with
      | none, _ => ofArguments { q with file := some a } rest
      | some f, none => ofArguments ⟨some f, some a⟩ rest
      | some _, some _ => .error .tooManyArguments

private def orMain (name : String) : String := if name.isEmpty then "main" else name

def backup (arguments : List String) : Act Console Unit :=
  match BackupRequest.ofArguments {} arguments with
  | .error c => Act.complain c
  | .ok ⟨_, none⟩ => Act.complain .missingFileName
  | .ok ⟨database?, some file⟩ => do
    openOther file
    (do
      let db ← connection
      copyDatabase file "main" db.filename (orMain (database?.getD ""))).ensuring
        (Act.event (.close file))

def restore (database file : String) : Act Console Unit := do
  openOther file
  (do
    let db ← connection
    copyDatabase db.filename database file "main").ensuring (Act.event (.close file))

end SqlConsole.Console

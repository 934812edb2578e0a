import SqlConsole.Console.Dispatch
import SqlConsole.Console.Item

/-! Reading input: dot commands are done as soon as they are read, and SQL is gathered until it is
complete. -/
namespace SqlConsole.Console

/-- How far the reading of an input has come. -/
structure Reading where
  /-- Gathered SQL that is not complete. -/
  buffer : List Char := []
  startLine : Nat := 0
  lines : Nat := 0
  errors : Nat := 0
  deriving DecidableEq, Repr

namespace Reading

def gather (r : Reading) (line : List Char) : Reading :=
  if r.buffer.isEmpty then { r with buffer := line, startLine := r.lines }
  else { r with buffer := r.buffer ++ '\n' :: line }

def clear (r : Reading) : Reading := { r with buffer := [] }

/-- Drops the line that is being taken, with all that was gathered before it. -/
def drop (r : Reading) : Reading := { r with buffer := [], lines := r.lines + 1 }

/-- Whether reading goes on after what was done, and how far it has come then. -/
def after (r : Reading) : Outcome → Bool × Reading
  | .success => (true, r)
  | .error => (true, { r with errors := r.errors + 1 })
  | .stop => (false, r)

end Reading

/-- What a test says of SQL text, where the engine can judge the text. -/
def judge (test : List Char → Bool) (s : List Char) : Act Console Bool :=
  if Statement.isJudged s then pure (test s) else Act.fail .zeroCharacter

def commandLine (feed : Source → Act Console Outcome) (line : List Char) : Act Console Outcome := do
  if (← Act.own).session.settings.echo then Act.write .stdout (line ++ ['\n'])
  dotLine feed line

def runWhole (sql : String) (line? : Option Int) : Act Console Outcome := do
  pure (if (← runSql sql line?) = 0 then .success else .error)

/-- The line as it is gathered. One that ends a statement like a semicolon does becomes a semicolon,
where that completes what has been gathered. -/
def assemble (buffer line : List Char) : Act Console (List Char) :=
  if Statement.isTerminator line then do
    pure (if ← judge Statement.endsAtSemicolon buffer then [';'] else line)
  else pure line

/-- Whether gathered SQL is complete with its last line, which needs a semicolon for that. -/
def isFull (buffer line : List Char) : Act Console Bool :=
  if line.contains ';' then judge Statement.isComplete buffer else pure false

def takeSql (interactive : Bool) (r : Reading) (line : List Char) :
    Act Console (Bool × Reading) := do
  let line ← assemble r.buffer line
  let r := r.gather line
  if ← isFull r.buffer line then do
    let line? : Option Int := if interactive then none else some r.startLine
    pure (r.clear.after (← runWhole (String.ofList r.buffer) line?))
  else pure (true, if Statement.isBlank r.buffer then r.clear else r)

/-- Takes one line, without its end. It tells whether reading goes on. -/
def takeLine (feed : Source → Act Console Outcome) (interactive : Bool) (r : Reading)
    (line : List Char) : Act Console (Bool × Reading) :=
  let r := { r with lines := r.lines + 1 }
  if r.buffer.isEmpty && Statement.isBlank line then pure (true, r)
  else if r.buffer.isEmpty && line.head? == some '.' then do
    pure (r.after (← commandLine feed line))
  else takeSql interactive r line

/-- Whether one more line is to be read. An error ends an input that is not interactive if the
session says so, and an interrupt ends it in any case. Before a line is read interactively the
prompt is written. -/
def isReady (interactive : Bool) (r : Reading) : Act Console Bool := do
  let c ← Act.own
  let s := c.session.settings
  if r.errors ≠ 0 && s.bail && !interactive then pure false
  else if c.interrupted && !interactive then pure false
  else do
    Act.modifyOwn fun c => { c with interrupted := false }
    if interactive then
      Act.write .stdout (if r.buffer.isEmpty then s.mainPrompt else s.continuePrompt).toList
    pure true

/-- The end of an input: a line end after the last prompt. -/
def endInput (interactive : Bool) : Act Console Unit :=
  if interactive then Act.write .stdout ['\n'] else pure ()

/-- What an input comes to, when no more of it is read. SQL that is left over is an error. -/
def conclude (r : Reading) : Act Console Outcome := do
  if r.buffer.isEmpty || Statement.isBlank r.buffer then
    pure (if r.errors = 0 then .success else .error)
  else do
    writeError ("Error: incomplete SQL: " ++ String.ofList r.buffer ++ "\n")
    pure .error

/-- Takes one line with its end. An interrupt drops the SQL gathered so far. -/
def takeWhole (feed : Source → Act Console Outcome) (interactive : Bool) (r : Reading)
    (text : List Char) : Act Console (Bool × Reading) := do
  match ← Act.attempt (takeLine feed interactive r (Text.chomp text)) with
  | .ok next => pure next
  | .error .interrupted => do
    interrupt interactive
    pure (true, r.drop)
  | .error f => Act.fail f

/-- Takes one item of input. An interrupt drops the SQL gathered so far. A line of no characters at
all is the end of the input. -/
def takeItem (feed : Source → Act Console Outcome) (interactive : Bool) (r : Reading) :
    Item → Act Console (Bool × Reading)
  | .interrupt => do
    interrupt interactive
    pure (true, r.clear)
  | .line [] => do
    endInput interactive
    pure (false, r)
  | .line text => takeWhole feed interactive r text

def readItems (feed : Source → Act Console Outcome) (interactive : Bool) (r : Reading) :
    List Item → Act Console Outcome
  | [] => do
    if ← isReady interactive r then endInput interactive
    conclude r
  | item :: rest => do
    if ← isReady interactive r then
      match ← takeItem feed interactive r item with
      | (true, r) => readItems feed interactive r rest
      | (false, r) => conclude r
    else conclude r

/-- Reads a file line by line, at most `fuel` lines. What a line does may change what is read after
it. -/
def readLines (feed : Source → Act Console Outcome) :
    (fuel : Nat) → Reading → Source → Act Console Outcome
  | 0, r, _ => do if ← isReady false r then Act.fail .endless else conclude r
  | fuel + 1, r, source => do
    if ← isReady false r then
      match ← Act.readLine source with
      | ([], _) => conclude r
      | (text, source) => do
        match ← takeWhole feed false r text with
        | (true, r) => readLines feed fuel r source
        | (false, r) => conclude r
    else conclude r

def maxDepth : Nat := 329

/-- Reads a file, and the files it asks for down to the given depth. -/
def readNested : Nat → Source → Act Console Outcome
  | 0, _ => Act.fail .tooDeep
  | depth + 1, source => do readLines (readNested depth) (← Act.lineLimit source) {} source

def readSource (source : Source) : Act Console Outcome := readNested maxDepth source

def readInput (interactive : Bool) (items : List Item) : Act Console Outcome :=
  readItems readSource interactive {} items

def runDotLine (line : String) : Act Console Outcome := dotLine readSource line.toList

/-- Does a dot command or SQL given as one text. -/
def runText (text : String) : Act Console Outcome :=
  if text.toList.head? = some '.' then runDotLine text
  else runWhole text none

end SqlConsole.Console

import SqlConsole.World.Act

/-! Reading files, and writing to streams, files and commands. -/
namespace SqlConsole.Act

variable {σ : Type}

/-- A handle passes on what it holds, as far as that is taken. -/
def passOn (k : Sink) (id : Nat) (h : Handle) : Act σ Unit := do
  let taking := (← world).taking k h.turns
  let n := taking.count h.heldSize
  modifyWorld fun w => { w with files := h.passOn n w.files }.setHandle id (h.release n)
  if taking.refuses h.heldSize then fail (.sink k .refused)

def flush (k : Sink) : Act σ Unit :=
  match k with
  | .opened id _ => do
    match (← world).handle? id with
    | some h => if h.heldSize ≠ 0 then passOn k id h
    | none => fail (.sink k .closed)
  | _ => pure ()

/-- Writes text, which is held until the sink is flushed or closed, or there is a block of it. -/
def write (k : Sink) (text : List Char) : Act σ Unit :=
  match k with
  | .opened id _ => do
    match (← world).handle? id with
    | some h => do
      let h := h.hold (Text.utf8 text)
      modifyWorld (·.setHandle id h)
      note (.wrote k (String.ofList text))
      if h.isFull then flush k
    | none => fail (.sink k .closed)
  | _ => note (.wrote k (String.ofList text))

/-- Closes a sink that the console opened; what it holds is passed on first. The sink is closed then,
even where that is refused. Closing a sink again does nothing, and the streams of others stay open. -/
def close (k : Sink) : Act σ Unit :=
  match k with
  | .opened id _ => do
    match (← world).handle? id with
    | some h => do
      let taking := (← world).taking k h.turns
      let n := taking.count h.heldSize
      let h' := h.release n
      modifyWorld fun w =>
        { w with files := h'.finish (h.passOn n w.files) }.setHandle id { h' with isOpen := false }
      note (.closed k)
      if taking.refuses h.heldSize then fail (.sink k .refused)
    | none => pure ()
  | _ => pure ()

private def addHandle (name : String) (target : Target) : Act σ Sink := do
  let k := Sink.opened (← world).handles.length name
  modifyWorld fun w => { w with handles := w.handles ++ [{ target }] }
  note (.opened k)
  pure k

private def checkName (name : String) : Act σ Unit :=
  if name.toList.contains '\x00' then fail .zeroCharacter else pure ()

def openFile (name : String) : Act σ Sink := do
  checkName name
  let empty (p : World.Path) : Act σ Sink := do
    modifyWorld fun w => { w with files := w.files.put p [] }
    addHandle name (.file p)
  match (← world).files.spot name with
  | some (.file p) => empty p
  | some (.vacant p) => empty p
  | _ => complain (.cannotOpen name)

def openCommand (line : String) : Act σ Sink := do
  checkName line
  addHandle ("|" ++ line) (.command line)

/-- Opens a file for reading; none when it cannot be opened. -/
def openSource? (name : String) (ends : Text.LineEnds) : Act σ (Option Source) := do
  checkName name
  match (← world).files.spot name with
  | some (.file path) => pure (some { path, reader := { ends } })
  | _ => pure none

/-- The next line of a file as it is now, which is empty at the end of the file. -/
def readLine (f : Source) : Act σ (List Char × Source) := do
  match f.reader.line? (((← world).files.content? f.path).getD []) with
  | some (line, reader) => pure (line, { f with reader })
  | none => fail .undecodable

/-- How many lines are read at most of what is added to a file while it is read. -/
def maxAddedLines : Nat := 100000

/-- How many lines of a file are read before it is given up: all that it has, and some more. -/
def lineLimit (f : Source) : Act σ Nat := do
  pure ((((← world).files.content? f.path).getD []).length + maxAddedLines)

end SqlConsole.Act

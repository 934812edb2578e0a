import SqlConsole.Engine.Event
import SqlConsole.Engine.Script
import SqlConsole.Text.Reader
import SqlConsole.World.Filter
import SqlConsole.World.Sink

/-! The world outside the console: the engine, the files, the streams, and what was done so far. -/
namespace SqlConsole

/-- Where an opened sink puts its text. -/
inductive Target where
  | file (p : World.Path)
  | command (line : String)
  deriving DecidableEq, Repr

structure Handle where
  target : Target
  /-- How many bytes have been passed on. -/
  passed : Nat := 0
  /-- What a command has been given so far. -/
  given : List UInt8 := []
  /-- What has been written and not been passed on, the latest first. -/
  held : List (List UInt8) := []
  heldSize : Nat := 0
  isOpen : Bool := true
  /-- How many times something was passed on, or was refused. -/
  turns : Nat := 0
  deriving DecidableEq, Repr

structure Source where
  path : World.Path
  reader : Text.Reader
  deriving DecidableEq, Repr

inductive Deed where
  | engine (e : Engine.Event)
  /-- The engine has begun to run a text and tells so to whoever traces the connection. -/
  | began (sql : String)
  | wrote (sink : Sink) (text : String)
  | opened (sink : Sink)
  | closed (sink : Sink)
  deriving DecidableEq, Repr

/-- All that lies outside the console. -/
structure World where
  script : Engine.Script := {}
  files : World.Files := {}
  handles : List Handle := []
  /-- What was done, the latest first. -/
  past : List Deed := []
  /-- The engine tells the console what it logs. -/
  logging : Bool := false
  /-- What the statements have counted since counting was turned on. -/
  counting : Option Engine.Counters := none
  statement : Option String := none
  /-- What becomes of the bytes that a sink which the console opened passes on, each time that it does. The
  streams of others take all that is written to them. -/
  taking : Sink → Nat → Taking := fun _ _ => .all
  /-- What there will be to tell of the time and the memory that is used, each time that it is asked for. -/
  usage : List (List String) := []

namespace World

def handle? (w : World) (id : Nat) : Option Handle := w.handles[id]?.filter (·.isOpen)

def setHandle (w : World) (id : Nat) (h : Handle) : World :=
  { w with handles := w.handles.set id h }

end World

/-- How many bytes a handle holds before it passes them on of itself. -/
def heldLimit : Nat := 8192

namespace Handle

def heldBytes (h : Handle) : List UInt8 := h.held.reverse.flatten

def hold (h : Handle) (bytes : List UInt8) : Handle :=
  { h with held := bytes :: h.held, heldSize := h.heldSize + bytes.length }

/-- A handle that holds as many bytes as it may. -/
def isFull (h : Handle) : Bool := heldLimit ≤ h.heldSize

/-- The files after so many of the bytes that a handle holds have been passed on. -/
def passOn (h : Handle) (n : Nat) (fs : World.Files) : World.Files :=
  match h.target with
  | .file p =>
    let bytes := h.heldBytes.take n
    if bytes.isEmpty then fs
    else fs.put p (World.overwrite ((fs.content? p).getD []) h.passed bytes)
  | .command _ => fs

/-- The handle after so many of the bytes that it holds have been passed on. The others stay with it, but
not as many of them as make it full. -/
def release (h : Handle) (n : Nat) : Handle :=
  let rest := if h.isFull then [] else h.heldBytes.drop n
  { h with
    passed := h.passed + n
    given :=
      match h.target with
      | .file _ => []
      | .command _ => h.given ++ h.heldBytes.take n
    held := [rest]
    heldSize := rest.length
    turns := h.turns + 1 }

/-- The files after a handle has been closed. A command gets all that it was given at once. -/
def finish (h : Handle) (fs : World.Files) : World.Files :=
  match h.target with
  | .file _ => fs
  | .command line => World.feed line h.given fs

end Handle

end SqlConsole

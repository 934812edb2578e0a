import SqlConsole.Console.Choices

/-! Dot commands that turn to the engine itself. -/
namespace SqlConsole.Console

def loadExtension (file : String) (start? : Option String) : Act Console Unit := do
  let _ ← connection
  let script := (← Act.world).script
  match script.enableLoadFault with
  | some (.error _) => Act.complain .loadingUnsupported
  | some .interrupted => Act.fail .interrupted
  | none => do
    Act.event (.load file start?)
    Act.raise script.loadFault

def setTimeout (argument : String) : Act Console Unit := do
  let _ ← connection
  Act.event (.busyTimeout (← integerArgument argument))

inductive ControlOptions where
  | none
  | one
  /-- Options that cannot be given on a line. -/
  | other
  deriving DecidableEq, Repr

/-- The test controls, in the order of their numbers. -/
def testControls : List (String × ControlOptions) :=
  [("prng_save", .none), ("prng_restore", .none), ("prng_reset", .none), ("bitvec_test", .other),
   ("fault_install", .other), ("benign_malloc_hooks", .other), ("pending_byte", .one),
   ("assert", .one), ("always", .one), ("reserve", .one), ("optimizations", .one),
   ("iskeyword", .one), ("scratchmalloc", .other)]

/-- What is wrong with calling a test control: the number of its options, or else that it cannot be
called at all. -/
def controlComplaint (control : String × ControlOptions) (options : Nat) : Complaint :=
  match control.2 with
  | .none => if options = 0 then .unsupportedControl control.1 else .controlOptions control.1 false
  | .one => if options = 1 then .unsupportedControl control.1 else .controlOptions control.1 true
  | .other => .unsupportedControl control.1

/-- The test control that the start of a name means. A start of several names, or of none, is read
as a number. -/
def testControl (name : String) : Act Console (String × ControlOptions) := do
  match testControls.filter fun c => name.toList.isPrefixOf c.1.toList with
  | [c] => pure c
  | found => do
    if found.length > 1 then writeError ("ambiguous option name: \"" ++ name ++ "\"\n")
    let n ← integerArgument name
    match (if 1 ≤ n then testControls[n.toNat - 1]? else Option.none) with
    | some c => pure c
    | Option.none => Act.complain (.unknownControl name)

/-- Looks for the test control that is meant. None can be called. -/
def runTestControl (name : String) (options : Nat) : Act Console Unit := do
  Act.complain (controlComplaint (← testControl name) options)

end SqlConsole.Console

import SqlConsole.Session.Mode

/-! Settings that the user chooses. -/
namespace SqlConsole

/-- How many columns widths are kept for. -/
def maxColumns : Nat := 100

/-- Settings put aside while explain mode is on. -/
structure Snapshot where
  mode : Mode
  header : Bool
  widths : List Int
  deriving DecidableEq, Repr

structure Settings where
  mode : Mode := .list
  /-- The widths chosen for columns; a negative one moves text to the right, zero leaves the choice
  to the layout. -/
  widths : List Int := []
  separator : String := "|"
  nullvalue : String := ""
  header : Bool := false
  echo : Bool := false
  stats : Bool := false
  bail : Bool := false
  timer : Bool := false
  /-- Where rows are inserted in insert mode, already quoted. -/
  table : Option String := none
  beforeExplain : Option Snapshot := none
  mainPrompt : String := "sqlite> "
  continuePrompt : String := "   ...> "
  deriving DecidableEq, Repr

def Settings.width (s : Settings) (i : Nat) : Int :=
  if i < maxColumns then s.widths[i]?.getD 0 else 0

def explainWidths : List Int := [4, 13, 4, 4, 4, 13, 2, 13]

/-- Turns explain mode on. What it changes is put aside, unless explain mode is on already. -/
def Settings.explained (s : Settings) : Settings :=
  { s with
    beforeExplain := some (s.beforeExplain.getD ⟨s.mode, s.header, s.widths⟩)
    mode := .explain
    header := true
    widths := explainWidths }

def Settings.unexplained (s : Settings) : Settings :=
  match s.beforeExplain with
  | none => s
  | some p =>
    { s with mode := p.mode, header := p.header, widths := p.widths, beforeExplain := none }

end SqlConsole

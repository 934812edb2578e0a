/-! The ways to lay out rows. -/
namespace SqlConsole

inductive Mode where
  | line
  | column
  | list
  | semi
  | html
  | insert
  | tcl
  | csv
  | explain
  deriving DecidableEq, Repr

def Mode.name : Mode → String
  | line => "line"
  | column => "column"
  | list => "list"
  | semi => "semi"
  | html => "html"
  | insert => "insert"
  | tcl => "tcl"
  | csv => "csv"
  | explain => "explain"

end SqlConsole

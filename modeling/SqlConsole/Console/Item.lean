import SqlConsole.Text.Lines

/-! Input that is there from the start, line by line. -/
namespace SqlConsole.Console

/-- What reading one line of input gives. -/
inductive Item where
  | line (text : List Char)
  /-- The user stops what is going on. -/
  | interrupt
  deriving DecidableEq, Repr

/-- The lines of a text that end with LF. -/
def inputOfText (s : List Char) : List Item := (Text.lines s).map .line

end SqlConsole.Console

import SqlConsole.Delimited.Field
import SqlConsole.Session.Basic
import SqlConsole.Sql.Literal
import SqlConsole.Text.Escape
import SqlConsole.Text.Markup
import SqlConsole.Text.Pad

/-! Rows as text, in each layout that goes by one row alone. -/
namespace SqlConsole.Layout

open Text (padLeft)

structure Row where
  columns : List String
  values : List Sql.Value
  /-- The storage classes of the values are known. -/
  typed : Bool
  /-- The place of the row in the result of its statement. The first row has place 0. -/
  index : Int
  deriving DecidableEq, Repr

namespace Row

def texts (s : Settings) (row : Row) : List (List Char) :=
  row.values.map (·.shown s.nullvalue.toList)

def names (row : Row) : List (List Char) := row.columns.map String.toList

def isHeaded (s : Settings) (row : Row) : Bool := s.header && row.index == 0

end Row

def joined (s : Settings) (cells : List (List Char)) (ending : List Char) : List Char :=
  s.separator.toList.intercalate cells ++ ending

def headed (s : Settings) (row : Row) (header body : List Char) : List Char :=
  if row.isHeaded s then header ++ body else body

/-- One value a line, after the name of its column; the names end at one place, at least five
characters in. A blank line stands between rows. -/
def lineText (s : Settings) (row : Row) : List Char :=
  let width := row.names.foldl (fun w n => max w n.length) 5
  (if 0 < row.index then ['\n'] else []) ++
    (row.names.zip (row.texts s)).flatMap fun (name, text) =>
      padLeft width name ++ [' ', '=', ' '] ++ text ++ ['\n']

def listText (s : Settings) (row : Row) : List Char :=
  headed s row (joined s row.names ['\n'])
    (joined s (row.texts s) (if s.mode = .semi then [';', '\n'] else ['\n']))

def htmlRow (opening closing : String) (cells : List (List Char)) : List Char :=
  "<TR>".toList ++
    cells.flatMap (fun c => opening.toList ++ Text.escapeHtml c ++ closing.toList ++ ['\n']) ++
    "</TR>\n".toList

def htmlText (s : Settings) (row : Row) : List Char :=
  headed s row (htmlRow "<TH>" "</TH>" row.names) (htmlRow "<TD>" "</TD>" (row.texts s))

/-- Values as C strings. -/
def tclText (s : Settings) (row : Row) : List Char :=
  headed s row (joined s (row.names.map Text.quoteC) ['\n'])
    (joined s ((row.texts s).map Text.quoteC) ['\n'])

/-- A value as a delimited field; the text for NULL is never quoted. -/
def csvField (s : Settings) (v : Sql.Value) : List Char :=
  match v.text? with
  | none => s.nullvalue.toList
  | some t => Delimited.field s.separator.toList t

def csvText (s : Settings) (row : Row) : List Char :=
  headed s row (joined s (row.names.map (Delimited.field s.separator.toList)) ['\n'])
    (joined s (row.values.map (csvField s)) ['\n'])

def insertTable (s : Settings) : String :=
  match s.table with
  | none => "table"
  | some t => if t.isEmpty then "table" else t

def insertText (s : Settings) (row : Row) : List Char :=
  let literals := row.values.map fun v => if row.typed then v.literal else v.untypedLiteral
  "INSERT INTO ".toList ++ (insertTable s).toList ++ " VALUES(".toList ++
    [','].intercalate literals ++ ");\n".toList

end SqlConsole.Layout

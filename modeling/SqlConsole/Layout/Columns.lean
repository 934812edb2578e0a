import SqlConsole.Layout.Row

/-! Rows in columns. The first row of a result settles the widths. -/
namespace SqlConsole.Layout

/-- The least width of a column that the layout chooses, and the width of those past the last that
widths are kept for. -/
def defaultWidth : Nat := 10

/-- The width of the column with that place: the one chosen for it, or else what its name and the
text in the first row need. -/
def startWidth (s : Settings) (i : Nat) (name : List Char) (text? : Option (List Char)) :
    Option Int :=
  if s.width i ≠ 0 then some (s.width i)
  else text?.map fun text => (max defaultWidth (max name.length text.length) : Nat)

/-- The widths that the first row settles. There are none when a column without a width chosen for
it has no value there. -/
def startWidths (s : Settings) (row : Row) : Option (List Int) :=
  row.names.zipIdx.mapM fun (name, i) => startWidth s i name ((row.texts s)[i]?)

def keptWidth (widths : List Int) (i : Nat) : Int := widths[i]?.getD defaultWidth

def spaced (cells : List (List Char)) : List Char := [' ', ' '].intercalate cells ++ ['\n']

/-- The names of the columns over dashes. The names take the widths that the row settled, even past
the last column that widths are kept for. -/
def headerText (row : Row) (settled kept : List Int) : List Char :=
  spaced (row.names.zipIdx.map fun (name, i) => Text.cell (settled[i]?.getD 0) name) ++
    spaced ((List.range row.columns.length).map fun i =>
      List.replicate (keptWidth kept i).natAbs '-')

/-- A width that a text fits into: widened on its side, where the text is longer. -/
def grown (w : Int) (text : List Char) : Int :=
  if w.natAbs < text.length then if 0 ≤ w then text.length else -text.length else w

/-- The cells of a row. Where widths grow every text is written in full. -/
def cells (grow : Bool) (kept : List Int) (texts : List (List Char)) : List (List Char) :=
  texts.zipIdx.map fun (text, i) =>
    Text.cell (if grow then grown (keptWidth kept i) text else keptWidth kept i) text

def widened (grow : Bool) (kept : List Int) (texts : List (List Char)) : List Int :=
  if grow then
    kept.zipIdx.map fun (w, i) =>
      match texts[i]? with
      | some text => grown w text
      | none => w
  else kept

/-- A row in columns, and the widths kept after it; none when the first row settles no widths. -/
def columnText (s : Settings) (kept : List Int) (row : Row) : Option (List Char × List Int) :=
  let grow := s.mode == .explain
  let texts := row.texts s
  let body (kept : List Int) : List Char := spaced (cells grow kept texts)
  if row.index = 0 then
    (startWidths s row).map fun settled =>
      let kept := settled.take maxColumns
      (headed s row (headerText row settled kept) (body kept), widened grow kept texts)
  else
    some (body kept, widened grow kept texts)

def rowText (s : Settings) (kept : List Int) (row : Row) : Option (List Char × List Int) :=
  match s.mode with
  | .line => some (lineText s row, kept)
  | .column => columnText s kept row
  | .list => some (listText s row, kept)
  | .semi => some (listText s row, kept)
  | .html => some (htmlText s row, kept)
  | .insert => some (insertText s row, kept)
  | .tcl => some (tclText s row, kept)
  | .csv => some (csvText s row, kept)
  | .explain => columnText s kept row

/-- Writes a row to the session's output. The action keeps the widths. -/
def writeRow (session : Session) (row : Row) : Act (List Int) Unit := do
  match rowText session.settings (← Act.own) row with
  | none => Act.fail .missingValue
  | some (text, widths) => do
    Act.modifyOwn fun _ => widths
    Act.write session.output text

end SqlConsole.Layout

import Mathlib.Data.List.Forall2
import SqlConsole.Proofs.Layout.Rows
import SqlConsole.Proofs.Text.Markup

/-! Rows of a table in HTML, read back cell by cell: the text is cut at its tags, and in a cell the
entities are undone. -/
namespace SqlConsole.Layout

open Text (Tagged escapeHtml tags? unescapeHtml)

/-- The tag opens a cell, of a header or of a value. -/
def opensCell (tag : List Char) : Bool := tag == "TH".toList || tag == "TD".toList

/-- The cells among the pieces of a text: the tag of each, and its text with the entities undone. -/
def htmlCells (pieces : List Tagged) : List (List Char × List Char) :=
  (pieces.filter fun p => opensCell p.tag).map fun p => (p.tag, unescapeHtml p.text)

/-- The text is nothing but tags, cells and ends of lines, and these are its cells. -/
def HoldsCells (cells : List (List Char × List Char)) (text : List Char) : Prop :=
  ∃ pieces, tags? text = some ([], pieces) ∧ htmlCells pieces = cells ∧
    ∀ p ∈ pieces, opensCell p.tag ∨ p.text = [] ∨ p.text = ['\n']

/-- The cells of a row: the names of the columns, where it stands under them, and its values. -/
def rowCells (s : Settings) (row : Row) : List (List Char × List Char) :=
  (if row.isHeaded s then row.names.map ("TH".toList, ·) else []) ++
    (row.texts s).map ("TD".toList, ·)

/-- The pieces of a line of cells that have the tag. -/
def linePieces (tag : List Char) (texts : List (List Char)) : List Tagged :=
  ⟨"TR".toList, []⟩ ::
    (texts.flatMap fun t => [⟨tag, escapeHtml t⟩, ⟨'/' :: tag, ['\n']⟩]) ++ [⟨"/TR".toList, ['\n']⟩]

section Line
variable {opening closing : String} {tag : List Char}

private theorem tags?_cells (hopening : opening.toList = '<' :: (tag ++ ['>']))
    (hclosing : closing.toList = '<' :: '/' :: (tag ++ ['>'])) (htag : '>' ∉ tag)
    (texts : List (List Char)) {r : List Char} {pieces : List Tagged}
    (hr : tags? r = some ([], pieces)) :
    tags? (texts.flatMap (fun t => opening.toList ++ escapeHtml t ++ closing.toList ++ ['\n']) ++ r) =
      some ([], texts.flatMap (fun t => [⟨tag, escapeHtml t⟩, ⟨'/' :: tag, ['\n']⟩]) ++ pieces) := by
  induction texts with
  | nil => exact hr
  | cons t texts ih =>
    have hslash : '>' ∉ '/' :: tag := by simp [htag]
    have hclose := Text.tags?_tagged hslash (t := ['\n']) (by simp) ih
    have hescaped : '<' ∉ escapeHtml t := fun h => Text.not_mem_markup t _ h (by decide)
    have hcell := Text.tags?_tagged htag hescaped hclose
    simpa [hopening, hclosing] using hcell

/-- A line is cut into its pieces, whatever the texts of its cells are. -/
theorem tags?_htmlRow (hopening : opening.toList = '<' :: (tag ++ ['>']))
    (hclosing : closing.toList = '<' :: '/' :: (tag ++ ['>'])) (htag : '>' ∉ tag)
    (texts : List (List Char)) {r : List Char} {pieces : List Tagged}
    (hr : tags? r = some ([], pieces)) :
    tags? (htmlRow opening closing texts ++ r) = some ([], linePieces tag texts ++ pieces) := by
  have hopen : '>' ∉ "TR".toList := by decide
  have hclose : '>' ∉ "/TR".toList := by decide
  have hend : tags? ("</TR>\n".toList ++ r) = some ([], ⟨"/TR".toList, ['\n']⟩ :: pieces) :=
    Text.tags?_tagged hclose (t := ['\n']) (by decide) hr
  have hcells := tags?_cells hopening hclosing htag texts hend
  have hline := Text.tags?_tagged hopen (t := []) (by simp) hcells
  simpa [htmlRow, linePieces] using hline

private theorem opensCell_closing (tag : List Char) : opensCell ('/' :: tag) = false := by
  have hends : ∀ t ∈ ["TH".toList, "TD".toList], t.head? ≠ some '/' := by decide
  simp only [List.forall_mem_cons, List.not_mem_nil] at hends
  simp only [opensCell, Bool.or_eq_false_iff, beq_eq_false_iff_ne]
  exact ⟨fun h => hends.1 (h ▸ rfl), fun h => hends.2.1 (h ▸ rfl)⟩

/-- The cells of a line are its texts. -/
theorem htmlCells_linePieces (htag : opensCell tag) (texts : List (List Char)) :
    htmlCells (linePieces tag texts) = texts.map (tag, ·) := by
  have hrow : opensCell ['T', 'R'] = false ∧ opensCell ['/', 'T', 'R'] = false := by decide
  have hcells : ((texts.flatMap fun t => [(⟨tag, escapeHtml t⟩ : Tagged), ⟨'/' :: tag, ['\n']⟩]).filter
      fun p => opensCell p.tag) = texts.map fun t => ⟨tag, escapeHtml t⟩ := by
    induction texts with
    | nil => rfl
    | cons t texts ih => simp [htag, opensCell_closing, ih]
  simp [htmlCells, linePieces, hrow, hcells, Text.unescapeHtml_escapeHtml]

/-- Outside the cells there are ends of lines at most. -/
theorem forall_mem_linePieces (htag : opensCell tag) (texts : List (List Char)) :
    ∀ p ∈ linePieces tag texts, opensCell p.tag ∨ p.text = [] ∨ p.text = ['\n'] := by
  intro p hp
  simp only [linePieces, List.cons_append, List.mem_cons, List.mem_append, List.mem_flatMap,
    List.not_mem_nil, or_false] at hp
  rcases hp with rfl | ⟨t, -, rfl | rfl⟩ | rfl
  · exact .inr (.inl rfl)
  · exact .inl htag
  · exact .inr (.inr rfl)
  · exact .inr (.inr rfl)

end Line

/-- A row is read back as its cells. -/
theorem holdsCells_htmlText (s : Settings) (row : Row) :
    HoldsCells (rowCells s row) (htmlText s row) := by
  have hvalue : opensCell "TD".toList := by decide
  have hname : opensCell "TH".toList := by decide
  have hbody : tags? (htmlRow "<TD>" "</TD>" (row.texts s) ++ []) =
      some ([], linePieces "TD".toList (row.texts s) ++ []) :=
    tags?_htmlRow rfl rfl (by decide) (row.texts s) Text.tags?_nil
  rw [List.append_nil, List.append_nil] at hbody
  have hcells := htmlCells_linePieces hvalue (row.texts s)
  have hends := forall_mem_linePieces hvalue (row.texts s)
  unfold htmlText headed rowCells
  split
  · have hall : tags? (htmlRow "<TH>" "</TH>" row.names ++ htmlRow "<TD>" "</TD>" (row.texts s)) =
        some ([], linePieces "TH".toList row.names ++ linePieces "TD".toList (row.texts s)) :=
      tags?_htmlRow rfl rfl (by decide) row.names hbody
    refine ⟨_, hall, ?_, ?_⟩
    · have happend (a b : List Tagged) : htmlCells (a ++ b) = htmlCells a ++ htmlCells b := by
        simp [htmlCells]
      rw [happend, hcells, htmlCells_linePieces hname]
    · exact fun p hp => (List.mem_append.1 hp).elim (forall_mem_linePieces hname _ p) (hends p)
  · exact ⟨_, hbody, hcells, hends⟩

/-- What an escaped text says is not lost: none of its characters is taken for markup, and to undo its
entities in one pass gives the text back. So each row in that layout is read back from its tags: the
cells are the names of its columns, where they are written, and its values, in order. -/
theorem escapeHtml_decodable :
    (∀ t, (∀ c ∈ escapeHtml t, c ∉ ['<', '>', '"', '\x27']) ∧ unescapeHtml (escapeHtml t) = t ∧
      escapeHtml t = Text.replaceInTurn Text.entities t) ∧
    ∀ session : Session, session.settings.mode = .html →
      (∀ row, ∃ text, HoldsCells (rowCells session.settings row) text ∧
        ∀ s, writeRow session row s = Act.write session.output text s) ∧
      ∀ (rows : List Row) (s : Scene (List Int)), s.world.Accepts session.output →
        ∃ texts s', rows.forM (writeRow session) s = (.ok (), s') ∧
          s'.world.written session.output =
            s.world.written session.output ++ texts.map String.ofList ∧
          List.Forall₂ (fun row text => HoldsCells (rowCells session.settings row) text) rows texts := by
  refine ⟨fun t => ⟨Text.not_mem_markup t, Text.unescapeHtml_escapeHtml t,
    Text.escapeHtml_eq_replaceInTurn t⟩, fun session hmode => ?_⟩
  have htext (row : Row) (kept : List Int) :
      rowText session.settings kept row = some (htmlText session.settings row, kept) := by
    rw [rowText, hmode]
  refine ⟨fun row => ⟨_, holdsCells_htmlText session.settings row,
    fun s => writeRow_of_text (htext row s.own)⟩, fun rows s hopen => ?_⟩
  obtain ⟨s', hwrite, hwritten⟩ := exists_writeRows (fun row _ => htext row) hopen
  refine ⟨rows.map (htmlText session.settings), s', hwrite, ?_, ?_⟩
  · rw [hwritten, List.map_map]
    rfl
  · rw [List.forall₂_map_right_iff, List.forall₂_same]
    exact fun row _ => holdsCells_htmlText session.settings row

/-- A row whose name and texts look like tags and entities. -/
def markedRow : Row where
  columns := ["<TD>", "b"]
  values := [.text "&lt;'\"", .null]
  typed := true
  index := 0

theorem escapeHtml_decodable_marked :
    let session : Session := { settings := { mode := .html, header := true, nullvalue := "</TD>&" } }
    session.settings.mode = .html ∧ World.Accepts {} session.output ∧
    rowCells session.settings markedRow =
      [("TH".toList, "<TD>".toList), ("TH".toList, "b".toList),
        ("TD".toList, "&lt;'\"".toList), ("TD".toList, "</TD>&".toList)] ∧
    (∃ text, HoldsCells (rowCells session.settings markedRow) text ∧
      ∀ s, writeRow session markedRow s = Act.write .stdout text s) ∧
    ∃ texts s', [markedRow, markedRow].forM (writeRow session) ⟨{}, []⟩ = (.ok (), s') ∧
      s'.world.written .stdout = texts.map String.ofList ∧
      List.Forall₂ (fun row text => HoldsCells (rowCells session.settings row) text)
        [markedRow, markedRow] texts := by
  intro session
  obtain ⟨hrow, hrows⟩ := escapeHtml_decodable.2 session rfl
  obtain ⟨texts, s', hwrite, hwritten, hread⟩ := hrows [markedRow, markedRow] ⟨{}, []⟩ trivial
  exact ⟨rfl, trivial, by decide +kernel, hrow markedRow, texts, s', hwrite, hwritten, hread⟩

/-- An ampersand that starts no entity stays, and entities are undone once. -/
example : unescapeHtml "&amp;lt; &lt &#39;".toList = "&lt; &lt '".toList := by decide +kernel

end SqlConsole.Layout

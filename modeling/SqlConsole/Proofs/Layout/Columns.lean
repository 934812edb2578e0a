import Mathlib.Algebra.GroupWithZero.Nat
import Mathlib.Data.List.Forall2
import SqlConsole.Proofs.Layout.Rows

/-! Rows in columns: the lines of a result, where the cells of each are, and how wide. -/
namespace SqlConsole.Layout

/-- Where the cell of a column starts on a line: the cells before it have two blanks behind each. -/
def offset (widths : List Int) (i : Nat) : Nat := ((widths.take i).map fun w => w.natAbs + 2).sum

/-- A line with one cell for each width: the cells are as wide as that, start where they have to, and
nothing comes behind the last one. -/
structure Aligned (widths : List Int) (cells : List (List Char)) (line : List Char) : Prop where
  length : line.length = offset widths widths.length - 2
  cell : ∀ i w, widths[i]? = some w → ∃ cell, cells[i]? = some cell ∧ cell.length = w.natAbs ∧
    (line.drop (offset widths i)).take w.natAbs = cell

section Aligned
variable {w : Int} {widths : List Int} {cell line : List Char} {cells : List (List Char)}

@[simp] theorem offset_zero (widths : List Int) : offset widths 0 = 0 := rfl

@[simp] theorem offset_cons_succ (w : Int) (widths : List Int) (i : Nat) :
    offset (w :: widths) (i + 1) = w.natAbs + 2 + offset widths i := by
  simp [offset]

theorem Aligned.nil : Aligned [] [] [] := ⟨rfl, by simp⟩

theorem Aligned.singleton (h : cell.length = w.natAbs) : Aligned [w] [cell] cell := by
  refine ⟨by simp [h], fun i v hv => ?_⟩
  cases i with
  | zero =>
    obtain rfl : w = v := by simpa using hv
    exact ⟨cell, rfl, h, by simp [← h]⟩
  | succ i => simp at hv

theorem Aligned.cons (hcell : cell.length = w.natAbs) (hne : widths ≠ [])
    (h : Aligned widths cells line) : Aligned (w :: widths) (cell :: cells) (cell ++ [' ', ' '] ++ line) := by
  have hpos : 2 ≤ offset widths widths.length := by
    cases widths with
    | nil => exact absurd rfl hne
    | cons v widths => 
      simp
      omega
  refine ⟨?_, fun i v hv => ?_⟩
  · simp [h.length, hcell]
    omega
  · cases i with
    | zero =>
      obtain rfl : w = v := by simpa using hv
      exact ⟨cell, rfl, hcell, by simp [← hcell]⟩
    | succ i =>
      obtain ⟨c, hc, hlength, htake⟩ := h.cell i v (by simpa using hv)
      refine ⟨c, by simpa using hc, hlength, ?_⟩
      have hskip : (cell ++ [' ', ' ']).length = w.natAbs + 2 := by simp [hcell]
      rw [offset_cons_succ, ← hskip, List.drop_length_add_append]
      exact htake

/-- Cells of these widths, two blanks apart, line up. -/
theorem aligned_intercalate (h : List.Forall₂ (fun cell w => cell.length = Int.natAbs w) cells widths) :
    Aligned widths cells ([' ', ' '].intercalate cells) := by
  induction h with
  | nil => exact .nil
  | @cons cell w cells widths hcell hcells ih =>
    cases hcells with
    | nil => simpa using Aligned.singleton hcell
    | cons _ _ =>
      rw [List.intercalate_cons_cons]
      exact .cons hcell (by simp) ih

end Aligned

/-- The columns of a row: the name of each, and its text. -/
def fields (s : Settings) (row : Row) : List (List Char × List Char) := row.names.zip (row.texts s)

/-- The width chosen for a column, or else what its name and its text need. -/
def neededWidth (s : Settings) (i : Nat) (field : List Char × List Char) : Int :=
  if s.width i ≠ 0 then s.width i
  else (max defaultWidth (max field.1.length field.2.length) : Nat)

/-- The widths that the first row settles. -/
def settledWidths (s : Settings) (first : Row) : List Int := (fields s first).mapIdx (neededWidth s)

/-- The widths of the columns of a result: past the last column that widths are kept for, all are the
same. -/
def columnWidths (s : Settings) (first : Row) : List Int :=
  (fields s first).mapIdx fun i field =>
    if i < maxColumns then neededWidth s i field else defaultWidth

/-- A text with the blanks that its column has left: behind it, or before it where the width is negative. -/
def beside (w : Int) (text : List Char) : List Char :=
  let blanks := List.replicate (w.natAbs - text.length) ' '
  if w < 0 then blanks ++ text else text ++ blanks

/-- The texts of a line, each cut to the width of its column or with blanks beside it. -/
def fitted (widths : List Int) (texts : List (List Char)) : List (List Char) :=
  List.zipWith (fun w text => beside w (text.take w.natAbs)) widths texts

theorem pad_eq (w : Int) (text : List Char) : Text.pad w text = beside w text := rfl

@[simp] theorem length_beside (w : Int) (text : List Char) :
    (beside w text).length = max w.natAbs text.length := Text.length_pad w text

theorem fitted_eq (widths : List Int) (texts : List (List Char)) :
    fitted widths texts = List.zipWith Text.cell widths texts := rfl

def dashes (widths : List Int) : List (List Char) := widths.map fun w => List.replicate w.natAbs '-'

section Widths
variable {s : Settings} {first : Row} {widths : List Int} {texts : List (List Char)}

@[simp] theorem length_settledWidths :
    (settledWidths s first).length = (fields s first).length := by simp [settledWidths]

@[simp] theorem length_columnWidths :
    (columnWidths s first).length = (fields s first).length := by simp [columnWidths]

theorem length_fields (h : first.values.length = first.columns.length) :
    (fields s first).length = first.columns.length := by
  simp [fields, Row.names, Row.texts, h]

private theorem mapM_eq_some {α β : Type} {f : α → Option β} {g : α → β} {l : List α}
    (h : ∀ a ∈ l, f a = some (g a)) : l.mapM f = some (l.map g) := by
  induction l with
  | nil => rfl
  | cons a l ih =>
    obtain ⟨ha, hl⟩ := List.forall_mem_cons.1 h
    rw [List.mapM_cons, ha, ih hl]
    rfl

/-- Where no value is missing, the first row settles the widths. -/
theorem startWidths_eq (h : first.values.length = first.columns.length) :
    startWidths s first = some (settledWidths s first) := by
  have hstart : ∀ a ∈ first.names.zipIdx, startWidth s a.2 a.1 ((first.texts s)[a.2]?) =
      some (neededWidth s a.2 (a.1, ((first.texts s)[a.2]?).getD [])) := by
    rintro ⟨name, i⟩ hmem
    have hi : i < (first.texts s).length := by
      have hlt := (List.getElem?_eq_some_iff.1 (List.mem_zipIdx_iff_getElem?.1 hmem)).1
      simpa [Row.texts, Row.names, h] using hlt
    simp only [startWidth, neededWidth, List.getElem?_eq_getElem hi]
    split <;> rfl
  rw [startWidths, mapM_eq_some hstart]
  congr 1
  apply List.ext_getElem
  · simp [fields, Row.texts, Row.names, h]
  · intro i hi hi'
    have hlt : i < (first.texts s).length := by
      rw [length_settledWidths, fields, List.length_zip] at hi'
      omega
    simp [settledWidths, fields, List.getElem?_eq_getElem hlt]

/-- A row that lacks no value has a text in every layout. -/
theorem exists_rowText {row : Row} (h : row.columns.length ≤ row.values.length) (kept : List Int) :
    ∃ text widths, rowText s kept row = some (text, widths) := by
  have hstart : ∀ a ∈ row.names.zipIdx, startWidth s a.2 a.1 ((row.texts s)[a.2]?) =
      some ((startWidth s a.2 a.1 ((row.texts s)[a.2]?)).getD 0) := by
    rintro ⟨name, i⟩ hmem
    have hi : i < (row.texts s).length := by
      have hlt := (List.getElem?_eq_some_iff.1 (List.mem_zipIdx_iff_getElem?.1 hmem)).1
      simp only [Row.names, List.length_map] at hlt
      simpa [Row.texts] using Nat.lt_of_lt_of_le hlt h
    simp only [startWidth, List.getElem?_eq_getElem hi]
    split <;> rfl
  have hcolumn : ∃ text widths, columnText s kept row = some (text, widths) := by
    unfold columnText
    split
    · rw [startWidths, mapM_eq_some hstart]
      exact ⟨_, _, rfl⟩
    · exact ⟨_, _, rfl⟩
  unfold rowText
  cases s.mode <;> first | exact ⟨_, _, rfl⟩ | exact hcolumn

theorem keptWidth_eq {i : Nat} {w : Int} (h : (columnWidths s first)[i]? = some w) :
    keptWidth ((settledWidths s first).take maxColumns) i = w := by
  rw [columnWidths, List.getElem?_mapIdx] at h
  obtain ⟨field, hfield, rfl⟩ := Option.map_eq_some_iff.1 h
  rw [keptWidth, List.getElem?_take, settledWidths, List.getElem?_mapIdx, hfield]
  split <;> rfl

private theorem zipIdx_map_eq {α β : Type} {xs : List α} {g : Int → α → β} {f : Nat → Int}
    (hlength : xs.length = widths.length) (hf : ∀ i w, widths[i]? = some w → f i = w) :
    (xs.zipIdx.map fun (x, i) => g (f i) x) = List.zipWith g widths xs := by
  apply List.ext_getElem
  · simp [hlength]
  · intro i hi hi'
    have hw : i < widths.length := by simp at hi'; omega
    have := hf i _ (List.getElem?_eq_getElem hw)
    simp [this]

private theorem range_map_eq {β : Type} {g : Int → β} {f : Nat → Int} {n : Nat}
    (hlength : n = widths.length) (hf : ∀ i w, widths[i]? = some w → f i = w) :
    ((List.range n).map fun i => g (f i)) = widths.map g := by
  apply List.ext_getElem
  · simp [hlength]
  · intro i hi hi'
    have hw : i < widths.length := by simpa using hi'
    have := hf i _ (List.getElem?_eq_getElem hw)
    simp [this]

/-- The names take the same widths as the texts below, if past the last column that widths are kept
for nothing needs more than what is left to these. -/
theorem settledWidths_eq_iff : settledWidths s first = columnWidths s first ↔
    ∀ field ∈ (fields s first).drop maxColumns,
      field.1.length ≤ defaultWidth ∧ field.2.length ≤ defaultWidth := by
  have hchosen {i : Nat} (hi : ¬ i < maxColumns) : s.width i = 0 := if_neg hi
  have hneeded {i : Nat} (hi : ¬ i < maxColumns) (field : List Char × List Char) :
      neededWidth s i field = (defaultWidth : Int) ↔
        field.1.length ≤ defaultWidth ∧ field.2.length ≤ defaultWidth := by
    rw [neededWidth, hchosen hi, if_neg (fun h => h rfl)]
    omega
  constructor
  · intro heq field hmem
    obtain ⟨i, hi⟩ := List.mem_iff_getElem?.1 hmem
    rw [List.getElem?_drop] at hi
    have hat := congrArg (·[maxColumns + i]?) heq
    have hbeyond : ¬ maxColumns + i < maxColumns := by omega
    simp only [settledWidths, columnWidths, List.getElem?_mapIdx, hi, if_neg hbeyond,
      Option.map_some, Option.some.injEq] at hat
    exact (hneeded hbeyond field).1 hat
  · intro hall
    apply List.ext_getElem?
    intro i
    rw [settledWidths, columnWidths, List.getElem?_mapIdx, List.getElem?_mapIdx]
    cases hfield : (fields s first)[i]? with
    | none => rfl
    | some field =>
      by_cases hi : i < maxColumns
      · simp [hi]
      · have hmem : field ∈ (fields s first).drop maxColumns := by
          refine List.mem_iff_getElem?.2 ⟨i - maxColumns, ?_⟩
          rw [List.getElem?_drop, Nat.add_sub_cancel' (Nat.le_of_not_lt hi), hfield]
        simp [hi, (hneeded hi field).2 (hall field hmem)]

theorem settledWidths_getElem? {i : Nat} (hi : i < maxColumns) :
    (settledWidths s first)[i]? = (columnWidths s first)[i]? := by
  simp [settledWidths, columnWidths, List.getElem?_mapIdx, hi]

end Widths

/-- Cells brought to these widths line up. -/
theorem aligned_fitted {widths : List Int} {texts : List (List Char)}
    (h : texts.length = widths.length) :
    Aligned widths (fitted widths texts) ([' ', ' '].intercalate (fitted widths texts)) := by
  refine aligned_intercalate (List.forall₂_iff_get.2 ⟨by simp [fitted, h], fun i hi hi' => ?_⟩)
  simp [fitted_eq]

theorem aligned_dashes (widths : List Int) :
    Aligned widths (dashes widths) ([' ', ' '].intercalate (dashes widths)) := by
  refine aligned_intercalate (List.forall₂_map_left_iff.2 (List.forall₂_same.2 fun w _ => ?_))
  simp

theorem not_mem_intercalate {cells : List (List Char)} (h : ∀ cell ∈ cells, '\n' ∉ cell) :
    '\n' ∉ [' ', ' '].intercalate cells := by
  induction cells with
  | nil => exact List.not_mem_nil
  | cons cell cells ih =>
    obtain ⟨hcell, hcells⟩ := List.forall_mem_cons.1 h
    cases cells with
    | nil => simpa using hcell
    | cons cell' cells =>
      rw [List.intercalate_cons_cons]
      simp [hcell, ih hcells]

private theorem not_mem_cell {w : Int} {text : List Char} (h : '\n' ∉ text) : '\n' ∉ Text.cell w text := by
  have htake : '\n' ∉ text.take w.natAbs := fun hmem => h (List.mem_of_mem_take hmem)
  unfold Text.cell Text.pad
  split <;> simp [Text.padLeft, Text.padRight, htake]

private theorem not_mem_fitted {widths : List Int} {texts : List (List Char)}
    (h : ∀ text ∈ texts, '\n' ∉ text) : '\n' ∉ [' ', ' '].intercalate (fitted widths texts) := by
  refine not_mem_intercalate fun cell hcell => ?_
  obtain ⟨i, hi, rfl⟩ := List.mem_iff_getElem.1 hcell
  simp only [fitted_eq, List.getElem_zipWith]
  exact not_mem_cell (h _ (List.getElem_mem _))

private theorem not_mem_dashes (widths : List Int) : '\n' ∉ [' ', ' '].intercalate (dashes widths) := by
  refine not_mem_intercalate fun cell hcell => ?_
  obtain ⟨w, -, rfl⟩ := List.mem_map.1 hcell
  simp

section Rows
variable {s : Settings} {first row : Row}

private theorem cells_eq {texts : List (List Char)} (h : texts.length = (fields s first).length) :
    cells false ((settledWidths s first).take maxColumns) texts =
      fitted (columnWidths s first) texts := by
  simp only [cells, Bool.false_eq_true, if_false]
  exact zipIdx_map_eq (g := Text.cell) (by simpa using h) fun i w => keptWidth_eq

private theorem headerText_eq (h : first.values.length = first.columns.length) :
    headerText first (settledWidths s first) ((settledWidths s first).take maxColumns) =
      spaced (fitted (settledWidths s first) first.names) ++ spaced (dashes (columnWidths s first)) := by
  have hlength := length_fields (s := s) h
  have hnames : first.names.length = (settledWidths s first).length := by
    simpa [Row.names] using hlength.symm
  have hcount : first.columns.length = (columnWidths s first).length := by simpa using hlength.symm
  have hheading := zipIdx_map_eq (g := Text.cell) (f := fun i => (settledWidths s first)[i]?.getD 0) hnames
    fun i w hw => by rw [hw]; rfl
  have hrule : ((List.range first.columns.length).map fun i => List.replicate
      (keptWidth ((settledWidths s first).take maxColumns) i).natAbs '-') = dashes (columnWidths s first) :=
    range_map_eq (g := fun w => List.replicate w.natAbs '-') hcount fun i w => keptWidth_eq
  exact congrArg₂ (fun names rule => spaced names ++ spaced rule) hheading hrule

/-- The first row of a result, and the widths kept after it. -/
theorem rowText_first (kept : List Int) (hmode : s.mode = .column) (hfirst : first.index = 0)
    (hvalues : first.values.length = first.columns.length) :
    rowText s kept first = some
      ((if s.header then
          spaced (fitted (settledWidths s first) first.names) ++ spaced (dashes (columnWidths s first))
        else []) ++ spaced (fitted (columnWidths s first) (first.texts s)),
        (settledWidths s first).take maxColumns) := by
  have htexts : (first.texts s).length = (fields s first).length := by
    rw [length_fields hvalues, Row.texts, List.length_map, hvalues]
  have hgrow : (Mode.column == Mode.explain) = false := rfl
  simp only [rowText, hmode, columnText, hfirst, if_true, startWidths_eq hvalues, Option.map_some]
  rw [hgrow, cells_eq htexts, headerText_eq hvalues, headed, Row.isHeaded, hfirst]
  cases s.header <;> rfl

/-- Another row of the result leaves the widths as they are. -/
theorem rowText_next (hmode : s.mode = .column) (hrow : row.index ≠ 0)
    (hvalues : row.values.length = (fields s first).length) :
    rowText s ((settledWidths s first).take maxColumns) row = some
      (spaced (fitted (columnWidths s first) (row.texts s)),
        (settledWidths s first).take maxColumns) := by
  have htexts : (row.texts s).length = (fields s first).length := by
    rw [Row.texts, List.length_map, hvalues]
  have hgrow : (Mode.column == Mode.explain) = false := rfl
  simp only [rowText, hmode, columnText, if_neg hrow]
  rw [hgrow, cells_eq htexts]
  rfl

end Rows

/-- In column mode the dashes and the rows of a result line up at the widths of its columns, and each
text is cut to the width of its column or padded to it. The names take the widths that the first row
settles, which are the same up to the last column that widths are kept for. -/
theorem writeRows_columns (session : Session) (first : Row) (others : List Row) (s : Scene (List Int))
    (hmode : session.settings.mode = .column) (hopen : s.world.Accepts session.output)
    (hfirst : first.index = 0) (hothers : ∀ row ∈ others, row.index ≠ 0)
    (hvalues : ∀ row ∈ first :: others, row.values.length = first.columns.length) :
    let settings := session.settings
    let widths := columnWidths settings first
    let settled := settledWidths settings first
    ∃ s' texts heading rule lines,
      (first :: others).forM (writeRow session) s = (.ok (), s') ∧
      s'.world.written session.output = s.world.written session.output ++ texts ∧
      texts.flatMap String.toList =
        ((if settings.header then [heading, rule] else []) ++ lines).flatMap (· ++ ['\n']) ∧
      Aligned widths (dashes widths) rule ∧
      List.Forall₂ (fun line row => Aligned widths (fitted widths (row.texts settings)) line) lines
        (first :: others) ∧
      Aligned settled (fitted settled first.names) heading ∧
      (∀ i < maxColumns, settled[i]? = widths[i]?) ∧
      (settled = widths ↔ ∀ field ∈ (fields settings first).drop maxColumns,
        field.1.length ≤ defaultWidth ∧ field.2.length ≤ defaultWidth) ∧
      ((∀ name ∈ first.names, '\n' ∉ name) →
        (∀ row ∈ first :: others, ∀ text ∈ row.texts settings, '\n' ∉ text) →
        ∀ line ∈ heading :: rule :: lines, '\n' ∉ line) := by
  intro settings widths settled
  obtain ⟨hvalue, hrest⟩ := List.forall_mem_cons.1 hvalues
  have hcount : (fields settings first).length = first.columns.length := length_fields hvalue
  have hcells {row : Row} (hrow : row ∈ first :: others) :
      (row.texts settings).length = widths.length := by
    rw [length_columnWidths, hcount, Row.texts, List.length_map, hvalues row hrow]
  have hnames : first.names.length = settled.length := by
    rw [length_settledWidths, hcount, Row.names, List.length_map]
  obtain ⟨w, hwrite, hopen', hwritten⟩ :=
    exists_writeRow hopen (rowText_first s.own hmode hfirst hvalue)
  obtain ⟨w', hwrites, hwritten'⟩ := exists_writeRows_kept
    (fun row hrow => rowText_next hmode (hothers row hrow) ((hrest row hrow).trans hcount.symm)) hopen'
  rw [hwritten, List.append_assoc] at hwritten'
  let body (row : Row) : List Char := [' ', ' '].intercalate (fitted widths (row.texts settings))
  refine ⟨_, _, [' ', ' '].intercalate (fitted settled first.names),
    [' ', ' '].intercalate (dashes widths), (first :: others).map body,
    (Act.bind_ok hwrite _).trans hwrites, hwritten', ?_, aligned_dashes widths, ?_,
    aligned_fitted hnames, fun i hi => settledWidths_getElem? hi, settledWidths_eq_iff, ?_⟩
  · cases session.settings.header <;>
      simp [spaced, body, List.flatMap_map, settings, widths, settled]
  · exact List.forall₂_map_left_iff.2 (List.forall₂_same.2 fun row hrow => aligned_fitted (hcells hrow))
  · intro hplain hplains line hline
    rcases List.mem_cons.1 hline with rfl | hline
    · exact not_mem_fitted hplain
    · rcases List.mem_cons.1 hline with rfl | hline
      · exact not_mem_dashes widths
      · obtain ⟨row, hrow, rfl⟩ := List.mem_map.1 hline
        exact not_mem_fitted (hplains row hrow)

/-- A row with a text that is too long for its column, and a column that nothing is chosen for. -/
def unevenRow (index : Int) : Row where
  columns := ["id", "name", "c"]
  values := [.text "abcdef", .text "x", .null]
  typed := true
  index := index

theorem writeRows_columns_uneven :
    let settings : Settings := { mode := .column, header := true, widths := [3, -4] }
    columnWidths settings (unevenRow 0) = [3, -4, 10] ∧
      ∃ s' texts heading rule lines,
        [unevenRow 0, unevenRow 1].forM (writeRow { settings }) ⟨{}, []⟩ = (.ok (), s') ∧
        s'.world.written .stdout = texts ∧
        texts.flatMap String.toList = ([heading, rule] ++ lines).flatMap (· ++ ['\n']) ∧
        Aligned [3, -4, 10] (dashes [3, -4, 10]) rule ∧
        List.Forall₂ (fun line row => Aligned [3, -4, 10] (fitted [3, -4, 10] (Row.texts settings row)) line)
          lines [unevenRow 0, unevenRow 1] ∧
        Aligned [3, -4, 10] (fitted [3, -4, 10] ["id".toList, "name".toList, "c".toList]) heading := by
  intro settings
  have hwidths : columnWidths settings (unevenRow 0) = [3, -4, 10] := by decide
  have hsettled : settledWidths settings (unevenRow 0) = [3, -4, 10] := by decide
  obtain ⟨s', texts, heading, rule, lines, hwrite, hwritten, htext, hrule, hlines, hheading, -⟩ :=
    writeRows_columns { settings } (unevenRow 0) [unevenRow 1] ⟨{}, []⟩ rfl trivial rfl
      (by simp [unevenRow]) (by simp [unevenRow])
  rw [hwidths] at hrule hlines
  rw [hsettled] at hheading
  exact ⟨hwidths, s', texts, heading, rule, lines, hwrite, hwritten, htext, hrule, hlines, hheading⟩

/-- A row with one column more than widths are kept for, the name of which is long. -/
def wideRow : Row where
  columns := List.replicate 100 "a" ++ ["elevenchars"]
  values := List.replicate 101 (.integer 1)
  typed := true
  index := 0

/-- The name of a column past the last that widths are kept for goes on where the dashes below it and
its text end. -/
theorem writeRow_heading_overhangs :
    let settings : Settings := { mode := .column, header := true, widths := List.replicate 100 1 }
    ∃ s' heading rule line, [wideRow].forM (writeRow { settings }) ⟨{}, []⟩ = (.ok (), s') ∧
      (s'.world.written .stdout).flatMap String.toList = [heading, rule, line].flatMap (· ++ ['\n']) ∧
      (∀ text ∈ [heading, rule, line], '\n' ∉ text) ∧
      heading.length = 311 ∧ rule.length = 310 ∧ line.length = 310 := by
  intro settings
  have hvalues : wideRow.values.length = wideRow.columns.length := by decide
  have hfields := length_fields (s := settings) hvalues
  have hsettled : offset (settledWidths settings wideRow) 101 - 2 = 311 := by decide +kernel
  have hwidths : offset (columnWidths settings wideRow) 101 - 2 = 310 := by decide +kernel
  have hnames : wideRow.names.length = (settledWidths settings wideRow).length := by
    rw [length_settledWidths, hfields]
    rfl
  have htexts : (wideRow.texts settings).length = (columnWidths settings wideRow).length := by
    rw [length_columnWidths, hfields]
    rfl
  obtain ⟨w, hwrite, -, hwritten⟩ := @exists_writeRow { settings } _ _ wideRow ⟨{}, []⟩ trivial
    (rowText_first [] rfl rfl hvalues)
  have hheading := (aligned_fitted hnames).length
  have hrule := (aligned_dashes (columnWidths settings wideRow)).length
  have hline := (aligned_fitted htexts).length
  rw [length_settledWidths, hfields] at hheading
  rw [length_columnWidths, hfields] at hrule hline
  refine ⟨_, _, _, _, (Act.bind_ok hwrite _).trans rfl, ?_, ?_, hheading.trans hsettled,
    hrule.trans hwidths, hline.trans hwidths⟩
  · rw [hwritten]
    simp [spaced, settings, World.written]
  · simp only [List.forall_mem_cons, List.not_mem_nil, false_implies, implies_true, and_true]
    exact ⟨not_mem_fitted (by decide +kernel), not_mem_dashes _, not_mem_fitted (by decide +kernel)⟩

end SqlConsole.Layout

import SqlConsole.Proofs.Layout.Columns
import SqlConsole.Proofs.World.Agree

/-! One result after others: the widths that those left behind make no difference to it. -/
namespace SqlConsole.Layout

open Scene (Related)

/-- The texts of rows that are written one after another, up to the first one that has none. -/
def rowTexts (s : Settings) : List Int → List Row → List (List Char)
  | _, [] => []
  | kept, row :: rows =>
    match rowText s kept row with
    | some (text, widths) => text :: rowTexts s widths rows
    | none => []

/-- Writes the rows of results one after another, each in a session of its own. The widths are kept
throughout. A result that fails ends there, and the next one follows. -/
def writeResults (results : List (Session × List Row)) : Act (List Int) Unit :=
  results.forM fun (session, rows) => discard (Act.attempt (rows.forM (writeRow session)))

section Text
variable {s : Settings} {row : Row}

/-- In columns the first row of a result does without the widths that are kept. -/
theorem rowText_starts (hmode : s.mode = .column ∨ s.mode = .explain) (hindex : row.index = 0)
    (kept kept' : List Int) : rowText s kept row = rowText s kept' row := by
  rcases hmode with hmode | hmode <;> simp only [rowText, hmode, columnText, if_pos hindex]

/-- In any other layout all rows do, and leave them as they are. -/
theorem exists_rowText_alone (hcolumn : s.mode ≠ .column) (hexplain : s.mode ≠ .explain) (row : Row) :
    ∃ text, ∀ kept, rowText s kept row = some (text, kept) := by
  unfold rowText
  cases hmode : s.mode
  case column => exact absurd hmode hcolumn
  case explain => exact absurd hmode hexplain
  all_goals exact ⟨_, fun _ => rfl⟩

end Text

section Rows
variable {session : Session} {rows : List Row}

private theorem agrees_alone {row : Row} {text : List Char}
    (htext : ∀ kept, rowText session.settings kept row = some (text, kept)) :
    Act.Agrees (Related Eq fun _ _ => True) (writeRow session row) (writeRow session row) := by
  intro s t hst
  rw [writeRow_of_text (htext s.own), writeRow_of_text (htext t.own)]
  exact Act.Agrees.same_write _ _ _ _ ⟨hst.world, trivial⟩

/-- The first row settles the widths, so that the scenes are the same behind it. -/
private theorem agrees_starts {first : Row} {rest : List Row}
    (hfirst : ∀ kept kept', rowText session.settings kept first = rowText session.settings kept' first) :
    Act.Agrees (Related Eq fun _ _ => True) ((first :: rest).forM (writeRow session))
      ((first :: rest).forM (writeRow session)) := by
  rintro ⟨w, kept⟩ ⟨_, kept'⟩ ⟨rfl, -⟩
  cases htext : rowText session.settings kept first with
  | none =>
    have htext' := hfirst kept kept' ▸ htext
    have hfails : ∀ {o}, rowText session.settings o first = none →
        (first :: rest).forM (writeRow session) ⟨w, o⟩ = (.error .missingValue, ⟨w, o⟩) :=
      fun ho => Act.bind_error (writeRow_of_none (s := ⟨w, _⟩) ho) _
    rw [hfails htext, hfails htext']
    exact ⟨rfl, rfl, trivial⟩
  | some text =>
    obtain ⟨text, widths⟩ := text
    have htext' := hfirst kept kept' ▸ htext
    have hsame : (first :: rest).forM (writeRow session) ⟨w, kept⟩ =
        (first :: rest).forM (writeRow session) ⟨w, kept'⟩ := by
      show (writeRow session first >>= fun _ => rest.forM (writeRow session)) _ =
        (writeRow session first >>= fun _ => rest.forM (writeRow session)) _
      rw [Act.bind_apply, Act.bind_apply, writeRow_of_text (s := ⟨w, kept⟩) htext,
        writeRow_of_text (s := ⟨w, kept'⟩) htext']
    rw [hsame]
    exact ⟨rfl, rfl, trivial⟩

/-- A result is written in the same way whatever widths are kept when it starts. -/
theorem agrees_writeRows (hfirst : ∀ row ∈ rows.head?, row.index = 0) :
    Act.Agrees (Related Eq fun _ _ => True) (rows.forM (writeRow session))
      (rows.forM (writeRow session)) := by
  -- In columns the scenes become the same at the first row; elsewhere they stay apart and it does not matter.
  by_cases hmode : session.settings.mode = .column ∨ session.settings.mode = .explain
  · cases rows with
    | nil => exact .pure ()
    | cons first rest => exact agrees_starts (rowText_starts hmode (hfirst first rfl))
  · obtain ⟨hcolumn, hexplain⟩ := not_or.1 hmode
    refine .forM fun row _ => ?_
    obtain ⟨text, htext⟩ := exists_rowText_alone hcolumn hexplain row
    exact agrees_alone htext

/-- Rows that lack no value are written as their texts. -/
theorem exists_rowTexts (hrows : ∀ row ∈ rows, row.columns.length ≤ row.values.length)
    {s : Scene (List Int)} (hopen : s.world.Accepts session.output) :
    ∃ s', rows.forM (writeRow session) s = (.ok (), s') ∧
      s'.world.written session.output = s.world.written session.output ++
        (rowTexts session.settings s.own rows).map String.ofList ∧
      (rowTexts session.settings s.own rows).length = rows.length := by
  induction rows generalizing s with
  | nil => exact ⟨s, rfl, by simp [rowTexts], rfl⟩
  | cons row rows ih =>
    obtain ⟨hrow, hrows⟩ := List.forall_mem_cons.1 hrows
    obtain ⟨text, widths, htext⟩ := exists_rowText (s := session.settings) hrow s.own
    obtain ⟨w, hwrite, hopen', hwritten⟩ := exists_writeRow hopen htext
    obtain ⟨s', hrest, hwritten', hlength⟩ := ih hrows (s := ⟨w, widths⟩) hopen'
    refine ⟨s', (Act.bind_ok hwrite _).trans hrest, ?_, ?_⟩
    · rw [hwritten', hwritten, rowTexts, htext, List.map_cons, List.append_assoc,
        List.singleton_append]
    · simpa [rowTexts, htext] using hlength

/-- After any results, a further one is written as if it were the first: it ends in the same way, in the
same world. Where its text can be written and no value is missing, that text is the one it has from no
widths at all. -/
theorem writeRows_after_results (w : World) (results : List (Session × List Row)) (session : Session)
    (rows : List Row) (hfirst : ∀ row ∈ rows.head?, row.index = 0) :
    let s := (writeResults results ⟨w, []⟩).2
    let after := rows.forM (writeRow session) s
    let alone := rows.forM (writeRow session) ⟨s.world, []⟩
    after.1 = alone.1 ∧ after.2.world = alone.2.world ∧
      (s.world.Accepts session.output →
        (∀ row ∈ rows, row.columns.length ≤ row.values.length) →
        after.1 = .ok () ∧
        after.2.world.written session.output = s.world.written session.output ++
          (rowTexts session.settings [] rows).map String.ofList ∧
        (rowTexts session.settings [] rows).length = rows.length) := by
  intro s after alone
  have hagrees : Act.Agrees (Related Eq fun _ _ => True) (rows.forM (writeRow session))
    (rows.forM (writeRow session)) := agrees_writeRows hfirst
  obtain ⟨hend, hscenes⟩ := hagrees s ⟨s.world, []⟩ ⟨rfl, trivial⟩
  refine ⟨hend, hscenes.world, fun hopen hrows => ?_⟩
  obtain ⟨s', halone, hwritten, hlength⟩ := exists_rowTexts hrows (s := ⟨s.world, []⟩) hopen
  have hworld : after.2.world = s'.world := hscenes.world.trans (by rw [halone])
  exact ⟨hend.trans (by rw [halone]), hworld ▸ hwritten, hlength⟩

end Rows

/-- A row of one column. -/
def singleRow (index : Int) (text : String) : Row where
  columns := ["a"]
  values := [.text text]
  typed := true
  index

/-- The result before has left a wide column behind. -/
theorem writeRows_after_explained :
    let explain : Session := { settings := { mode := .explain } }
    let column : Session := { settings := { mode := .column } }
    let s := (writeResults [(explain, [singleRow 0 "wide beyond ten"])] ⟨{}, []⟩).2
    s.own = [15] ∧
      ([singleRow 0 "x"].forM (writeRow column) s).1 = .ok () ∧
      ([singleRow 0 "x"].forM (writeRow column) s).2.world.written .stdout =
        s.world.written .stdout ++ ["x         \n"] := by
  intro explain column s
  have hkept : s.own = [15] := by decide +kernel
  obtain ⟨-, -, hwritten⟩ := writeRows_after_results {} [(explain, [singleRow 0 "wide beyond ten"])]
    column [singleRow 0 "x"] (by simp [singleRow])
  obtain ⟨hend, htext, -⟩ := hwritten trivial (by simp [singleRow])
  refine ⟨hkept, hend, htext.trans ?_⟩
  congr 1

end SqlConsole.Layout

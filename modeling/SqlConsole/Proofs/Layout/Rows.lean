import SqlConsole.Layout.Columns
import SqlConsole.Proofs.World.Discreet
import SqlConsole.Proofs.World.Sinks

/-! Rows in a layout that goes by one row alone: each is written as its own text, in order. -/
namespace SqlConsole.Layout

variable {session : Session}

/-- A row that has a text keeps its widths, and then that text is written. -/
theorem writeRow_of_text {text : List Char} {widths : List Int} {row : Row} {s : Scene (List Int)}
    (htext : rowText session.settings s.own row = some (text, widths)) :
    writeRow session row s = Act.write session.output text ⟨s.world, widths⟩ := by
  simp only [writeRow, Act.bind_apply, Act.own, htext, Act.modifyOwn]

theorem writeRow_of_none {row : Row} {s : Scene (List Int)}
    (htext : rowText session.settings s.own row = none) :
    writeRow session row s = (.error .missingValue, s) := by
  simp only [writeRow, Act.bind_apply, Act.own, htext]
  rfl

theorem exists_writeRow {text : List Char} {widths : List Int} {row : Row} {s : Scene (List Int)}
    (hopen : s.world.Accepts session.output)
    (htext : rowText session.settings s.own row = some (text, widths)) :
    ∃ w, writeRow session row s = (.ok (), ⟨w, widths⟩) ∧ w.Accepts session.output ∧
      w.written session.output = s.world.written session.output ++ [String.ofList text] := by
  obtain ⟨w, hwrite, hstays, hpast⟩ :=
    Act.exists_write (s := (⟨s.world, widths⟩ : Scene (List Int))) hopen text
  refine ⟨w, ?_, (hstays.accepts_iff _).2 hopen, ?_⟩
  · rw [writeRow_of_text htext, hwrite]
  · rw [World.written_of_past hpast]
    simp [Deed.textTo?]

/-- Rows that leave the widths as they are kept. -/
theorem exists_writeRows_kept {text : Row → List Char} {kept : List Int} {rows : List Row}
    (htext : ∀ row ∈ rows, rowText session.settings kept row = some (text row, kept)) {w : World}
    (hopen : w.Accepts session.output) :
    ∃ w', rows.forM (writeRow session) ⟨w, kept⟩ = (.ok (), ⟨w', kept⟩) ∧
      w'.written session.output =
        w.written session.output ++ rows.map fun row => String.ofList (text row) := by
  induction rows generalizing w with
  | nil => exact ⟨w, rfl, by simp⟩
  | cons row rows ih =>
    obtain ⟨hrow, hrows⟩ := List.forall_mem_cons.1 htext
    obtain ⟨w₁, hwrite, hopen', hwritten⟩ := exists_writeRow (s := ⟨w, kept⟩) hopen hrow
    obtain ⟨w', hrest, hwritten'⟩ := ih hrows hopen'
    refine ⟨w', (Act.bind_ok hwrite _).trans hrest, ?_⟩
    rw [hwritten', hwritten, List.append_assoc, List.map_cons, List.singleton_append]

theorem exists_writeRows {text : Row → List Char} {rows : List Row}
    (htext : ∀ row ∈ rows, ∀ kept, rowText session.settings kept row = some (text row, kept))
    {s : Scene (List Int)} (hopen : s.world.Accepts session.output) :
    ∃ s', rows.forM (writeRow session) s = (.ok (), s') ∧
      s'.world.written session.output =
        s.world.written session.output ++ rows.map fun row => String.ofList (text row) := by
  obtain ⟨w, hwrite, hwritten⟩ := exists_writeRows_kept (fun row hrow => htext row hrow s.own) hopen
  exact ⟨_, hwrite, hwritten⟩

end SqlConsole.Layout

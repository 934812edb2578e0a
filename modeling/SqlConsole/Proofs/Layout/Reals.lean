import Mathlib.Data.List.Forall2
import SqlConsole.Proofs.Layout.Rows
import SqlConsole.Proofs.Sql.Reading

/-! Floating point values in rows that are written as statements. -/
namespace SqlConsole.Layout

open Sql (Value isNumber isNumeral_text)

/-- An infinite value has a word for its text. -/
theorem text_infinite {x : Sql.Real} (h : x.magnitude = .infinite) :
    x.text = if x.negative then ['-', 'I', 'n', 'f'] else ['I', 'n', 'f'] := by
  rw [Sql.Real.text, h]
  cases x.negative <;> rfl

theorem text_notANumber {x : Sql.Real} (h : x.magnitude = .notANumber) :
    x.text = ['n', 'a', 'n', '.', '0'] := by
  rw [Sql.Real.text, h]

theorem isNumber_text_iff (x : Sql.Real) : isNumber x.text ↔ (Value.real x).IsFinite := by
  cases h : x.magnitude with
  | finite num den => exact iff_of_true (isNumeral_text h).1.isNumber ⟨num, den, h⟩
  | infinite =>
    refine iff_of_false ?_ fun ⟨num, den, hfinite⟩ => by rw [h] at hfinite; cases hfinite
    rw [text_infinite h]
    cases x.negative <;> decide
  | notANumber =>
    refine iff_of_false ?_ fun ⟨num, den, hfinite⟩ => by rw [h] at hfinite; cases hfinite
    rw [text_notANumber h]
    decide

/-- A row whose values have storage classes is written with the literals of its values. -/
theorem rowText_insert {s : Settings} {row : Row} (hmode : s.mode = .insert) (htyped : row.typed)
    (kept : List Int) :
    rowText s kept row = some ("INSERT INTO ".toList ++ (insertTable s).toList ++ " VALUES(".toList ++
      [','].intercalate (row.values.map Value.literal) ++ ");\n".toList, kept) := by
  have hliterals : (row.values.map fun v => if row.typed then v.literal else v.untypedLiteral) =
      row.values.map Value.literal := List.map_congr_left fun v _ => if_pos htyped
  have htext : rowText s kept row = some (insertText s row, kept) := by rw [rowText, hmode]
  rw [htext]
  unfold insertText
  rw [hliterals]

/-- A floating point value stands in a statement as a numeric literal if and only if it is finite. In
the place of an infinite one there is a bare word. -/
theorem writeRow_real_isNumber_iff (session : Session) (row : Row) (s : Scene (List Int))
    (hmode : session.settings.mode = .insert) (htyped : row.typed) :
    ∃ literals,
      writeRow session row s = Act.write session.output
        ("INSERT INTO ".toList ++ (insertTable session.settings).toList ++ " VALUES(".toList ++
          [','].intercalate literals ++ ");\n".toList) s ∧
      List.Forall₂ (fun v l => ∀ x, v = Value.real x → l = (Value.real x).literal ∧
        (isNumber l ↔ (Value.real x).IsFinite) ∧
        (x.magnitude = .infinite → l = if x.negative then "-Inf".toList else "Inf".toList))
        row.values literals := by
  refine ⟨row.values.map Value.literal, writeRow_of_text (rowText_insert hmode htyped s.own), ?_⟩
  rw [List.forall₂_map_right_iff, List.forall₂_same]
  rintro _ - x rfl
  exact ⟨rfl, isNumber_text_iff x, text_infinite⟩

/-- The least value above zero, the other zero, and values at both ends. -/
def extremeRow : Row where
  columns := ["a", "b", "c", "d"]
  values := [.real ⟨1⟩, .real ⟨0x8000000000000000⟩, .real ⟨0xffefffffffffffff⟩, .real ⟨0x7ff0000000000000⟩]
  typed := true
  index := 0

theorem writeRow_real_isNumber_iff_extreme :
    let session : Session := { settings := { mode := .insert } }
    session.settings.mode = .insert ∧ extremeRow.typed ∧
    ∃ literals,
      writeRow session extremeRow ⟨{}, []⟩ = Act.write .stdout
        ("INSERT INTO ".toList ++ "table".toList ++ " VALUES(".toList ++
          [','].intercalate literals ++ ");\n".toList) ⟨{}, []⟩ ∧
      List.Forall₂ (fun v l => ∀ x, v = Value.real x → l = (Value.real x).literal ∧
        (isNumber l ↔ (Value.real x).IsFinite) ∧
        (x.magnitude = .infinite → l = if x.negative then "-Inf".toList else "Inf".toList))
        extremeRow.values literals :=
  ⟨rfl, rfl, writeRow_real_isNumber_iff { settings := { mode := .insert } } extremeRow ⟨{}, []⟩ rfl rfl⟩

/-- Infinite values are written as words, which are no numeric literals. -/
theorem writeRow_infinite_bare :
    let row : Row :=
      { columns := ["a", "b"], values := [.real ⟨0x7ff0000000000000⟩, .real ⟨0xfff0000000000000⟩],
        typed := true, index := 0 }
    (writeRow { settings := { mode := .insert } } row ⟨{}, []⟩).2.world.written .stdout =
        ["INSERT INTO table VALUES(Inf,-Inf);\n"] ∧
      ∀ v ∈ row.values, v.storage = .real ∧ ¬ isNumber v.literal := by
  decide +kernel

end SqlConsole.Layout

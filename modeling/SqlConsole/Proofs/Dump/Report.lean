import SqlConsole.Proofs.Dump.Script
import SqlConsole.Proofs.Sql.Numeral
import SqlConsole.Proofs.Statement.Comment

/-! Errors that a dump meets become comments in its script, as far as their messages let them: the
end of a comment in a message ends the comment there. -/
namespace SqlConsole

namespace Sql

theorem not_mem_integerText (n : Int) : '/' ∉ integerText n :=
  not_mem_integerText_of (by decide) (by decide) n

end Sql

namespace Dump
open Act
open Engine (Answer)

namespace Piece

/-- The error that a piece of the script tells of. -/
def reported? : Piece → Option Engine.Error
  | corruption e => some e
  | catalogError e => some e
  | rowError e => some e
  | _ => none

/-- What stands behind the message of an error in the script. -/
def ending : Piece → List Char
  | rowError _ => " *****/\n".toList
  | _ => " ******/\n".toList

private theorem isBlank_corruption (s : List Char) :
    Statement.isBlank ("/****** CORRUPTION ERROR *******/\n".toList ++ s) = Statement.isBlank s := by
  have hclosed : Statement.Fence.blockEnd.find "***** CORRUPTION ERROR *******/\n".toList =
      some ("***** CORRUPTION ERROR *******/".toList, ['\n']) := by rfl
  have hfound : Statement.throughComment ("***** CORRUPTION ERROR *******/\n".toList ++ s) =
      some ("***** CORRUPTION ERROR *******/".toList, '\n' :: s) :=
    Statement.find_extend hclosed s
  calc
    _ = Statement.isBlankFrom .block ("***** CORRUPTION ERROR *******/\n".toList ++ s) := by rfl
    _ = Statement.isBlank ('\n' :: s) := by rw [Statement.isBlankFrom_block, hfound]; rfl
    _ = Statement.isBlank s := by rfl

/-- What tells of an error is nothing but white space and comments where the message of the error
holds no end of a comment, or where what follows the first one is nothing else with the rest. -/
theorem isBlank_text {p : Piece} {e : Engine.Error} (h : p.reported? = some e) :
    Statement.isBlank p.text ↔ ∀ u v,
      Statement.throughComment e.message.toList = some (u, v) → Statement.isBlank (v ++ p.ending) := by
  cases p with
  | corruption e =>
    obtain rfl := Option.some_inj.1 h
    have htext : corruptionText e = "/****** CORRUPTION ERROR *******/\n".toList ++
        '/' :: '*' :: ("*****".toList ++ ' ' :: (e.message.toList ++ " ******/\n".toList)) := by
      rfl
    show Statement.isBlank (corruptionText e) ↔ _
    rw [htext, isBlank_corruption]
    exact Statement.isBlank_comment (by decide) rfl (by rfl) e.message.toList
  | catalogError e =>
    obtain rfl := Option.some_inj.1 h
    have htext : catalogErrorText e = '/' :: '*' :: ("***** ERROR:".toList ++
        ' ' :: (e.message.toList ++ " ******/\n".toList)) := by
      rfl
    show Statement.isBlank (catalogErrorText e) ↔ _
    rw [htext]
    exact Statement.isBlank_comment (by decide) rfl (by rfl) e.message.toList
  | rowError e =>
    obtain rfl := Option.some_inj.1 h
    have htext : rowErrorText e =
        '/' :: '*' :: (("*** ERROR: (".toList ++ Sql.integerText (e.code.getD (-1)) ++ [')']) ++
          ' ' :: (e.message.toList ++ " *****/\n".toList)) := by
      unfold rowErrorText
      generalize Sql.integerText (e.code.getD (-1)) = code
      generalize e.message.toList = message
      simp
    have hlead : '/' ∉ "*** ERROR: (".toList ++ Sql.integerText (e.code.getD (-1)) ++ [')'] := by
      simp [Sql.not_mem_integerText]
    show Statement.isBlank (rowErrorText e) ↔ _
    rw [htext]
    exact Statement.isBlank_comment hlead rfl (by rfl) e.message.toList
  | _ => cases h

end Piece

/-- What a dump writes between its savepoint and the release of it tells of an error where the engine
reported one. It is a comment if the message of the error does not end comments; a message that does
ends this one, and what follows the end is left to whoever reads the script. -/
theorem body_reports (session : Session) (db : Connection) (patterns : List String)
    (s : Scene Tally) (hready : Ready session s.world) (hown : s.own = {}) :
    let result := body session db patterns s
    ∃ texts inside, Records session s.world texts inside result.2.world ∧
      result.2.own.errors = inside.countP (·.isError) +
        (s.world.script.replies texts).countP isColumnless ∧
      ∀ p ∈ inside, ∀ e, p.reported? = some e →
        (∃ a ∈ s.world.script.replies texts, a.fault = some (.error e)) ∧
        (Statement.throughComment e.message.toList = none → Statement.isBlank p.text) ∧
        (Statement.isBlank p.text ↔ ∀ u v,
          Statement.throughComment e.message.toList = some (u, v) →
            Statement.isBlank (v ++ p.ending)) := by
  obtain ⟨r, w, t, texts, inside, hbody, hrecords, -, herrors, -, -⟩ :=
    exists_body db hready hown patterns
  intro result
  have hresult : result = (r, ⟨w, t⟩) := hbody
  rw [hresult]
  refine ⟨texts, inside, hrecords, herrors, fun p hp e he => ⟨?_, ?_, Piece.isBlank_text he⟩⟩
  · have hstems := hrecords.stems p hp
    cases p with
    | corruption e' =>
      obtain rfl := Option.some_inj.1 he
      exact hstems.2
    | catalogError e' =>
      obtain rfl := Option.some_inj.1 he
      exact hstems
    | rowError e' =>
      obtain rfl := Option.some_inj.1 he
      exact hstems
    | _ => cases he
  · intro hnone
    refine (Piece.isBlank_text he).2 fun u v hsome => ?_
    rw [hnone] at hsome
    cases hsome

/-- An engine whose error message ends a comment. -/
def hostile : Scene Tally where
  world :=
    { script := { answers := [
        { sql := othersQuery, fault := some (.error ⟨.sql, "*/ DROP TABLE t; --", some 1⟩) }] } }
  own := {}

theorem body_reports_hostile :
    let result := body {} { filename := ":memory:" } [] hostile
    Ready {} hostile.world ∧
    ∃ texts inside, Records {} hostile.world texts inside result.2.world ∧
      result.2.own.errors = inside.countP (·.isError) +
        (hostile.world.script.replies texts).countP isColumnless ∧
      ∀ p ∈ inside, ∀ e, p.reported? = some e →
        (∃ a ∈ hostile.world.script.replies texts, a.fault = some (.error e)) ∧
        (Statement.throughComment e.message.toList = none → Statement.isBlank p.text) ∧
        (Statement.isBlank p.text ↔ ∀ u v,
          Statement.throughComment e.message.toList = some (u, v) →
            Statement.isBlank (v ++ p.ending)) := by
  intro result
  have hready : Ready {} hostile.world := ⟨trivial, by simp, by simp⟩
  exact ⟨hready, body_reports {} { filename := ":memory:" } [] hostile hready rfl⟩

/-- What follows the end of a comment in a message is left in the script as it is. -/
theorem script_message_escapes :
    let result := script {} { filename := ":memory:" } [] hostile
    let line := "/**** ERROR: (1) */ DROP TABLE t; -- *****/\n"
    result.1.toOption = some 1 ∧ line ∈ result.2.world.written .stdout ∧
      Statement.isBlank line.toList = false := by
  decide +kernel

end Dump
end SqlConsole

import SqlConsole.Console.Import
import SqlConsole.Proofs.Text.Reader
import SqlConsole.Proofs.World.Discreet
import SqlConsole.Proofs.World.Ensures

/-! The records of a file are given on one after the other, as if all of it were read at once. -/
namespace SqlConsole.Console
open Delimited (Record Gathering)

/-- The line that is read is the first one of the text of the file that has not been read. -/
theorem readLine_eq {source : Source} {bytes : List UInt8} {left : List Char} {s : Scene Console}
    (hcontent : s.world.files.content? source.path = some bytes)
    (hawaits : source.reader.Awaits bytes left) :
    ∃ source' left', Act.readLine source s = (.ok ((Text.anyLines left).headD [], source'), s) ∧
      source'.path = source.path ∧ source'.reader.Awaits bytes left' ∧
      Text.anyLines left' = (Text.anyLines left).tail := by
  obtain ⟨reader, left', hline, hawaits', htail⟩ := Text.Reader.line?_awaits hawaits
  refine ⟨{ source with reader }, left', ?_, rfl, hawaits', htail⟩
  simp [Act.readLine, Act.bind_apply, Act.world, hcontent, hline, Act.pure_apply]

section Insert
variable {insert : Record → Act Console Unit} {I : Scene Console → Prop} {path : World.Path}
  {bytes : List UInt8}

/-- Whatever becomes of a record, the bytes of the file stay as they are. -/
structure Harmless (insert : Record → Act Console Unit) (path : World.Path) (bytes : List UInt8)
    (I : Scene Console → Prop) : Prop where
  keeps : ∀ r, Act.Keeps I (insert r)
  content : ∀ s, I s → s.world.files.content? path = some bytes

private theorem forM_append (rs rs' : List Record) :
    (rs ++ rs').forM insert = rs.forM insert >>= fun _ => rs'.forM insert := List.forM_append

/-- At the end of the file, the record that the end completes is left. -/
private theorem insertRecords_end (h : Harmless insert path bytes I) (fuel : Nat) (g : Gathering)
    {source : Source} {left : List Char} {s : Scene Console} (hs : I s) (hpath : source.path = path)
    (hawaits : source.reader.Awaits bytes left) (hleft : Text.anyLines left = []) :
    insertRecords insert (fuel + 2) g source s = g.last?.toList.forM insert s := by
  obtain ⟨source', left', hread, hpath', hawaits', hleft'⟩ :=
    readLine_eq (hpath ▸ h.content s hs) hawaits
  rw [hleft] at hread hleft'
  rw [insertRecords, Act.bind_ok hread]
  cases hlast : g.last? with
  | none => simp
  | some r =>
    rcases hinsert : insert r s with ⟨e | ⟨⟩, s'⟩
    · simp [Act.bind_error hinsert]
    · obtain ⟨source'', left'', hread', -⟩ :=
        readLine_eq ((hpath'.trans hpath) ▸ h.content s' ((h.keeps r).apply hs hinsert)) hawaits'
      rw [hleft'] at hread'
      simp [Act.bind_ok hinsert, insertRecords, Act.bind_ok hread', Gathering.last?,
        Gathering.clear]

private theorem insertRecords_lines (h : Harmless insert path bytes I) {ls : List (List Char)}
    {fuel : Nat} (hfuel : ls.length + 2 ≤ fuel) (g : Gathering) {source : Source}
    {left : List Char} {s : Scene Console} (hs : I s) (hpath : source.path = path)
    (hawaits : source.reader.Awaits bytes left) (hleft : Text.anyLines left = ls) :
    insertRecords insert fuel g source s = (g.records ls).forM insert s := by
  induction ls generalizing fuel g source left s with
  | nil =>
    obtain ⟨fuel, rfl⟩ := Nat.exists_eq_add_of_le' hfuel
    exact insertRecords_end h fuel g hs hpath hawaits hleft
  | cons l ls ih =>
    obtain ⟨fuel, rfl⟩ := Nat.exists_eq_add_of_le' (Nat.le_trans (by simp) hfuel : 1 ≤ fuel)
    have hl : l ≠ [] := Text.ne_nil_of_mem_anyLines l (hleft ▸ List.mem_cons_self)
    obtain ⟨source', left', hread, hpath', hawaits', hleft'⟩ :=
      readLine_eq (hpath ▸ h.content s hs) hawaits
    rw [hleft] at hread hleft'
    have hstep : insertRecords insert (fuel + 1) g source s =
        ((g.add l).1.toList.forM insert >>= fun _ =>
          insertRecords insert fuel (g.add l).2 source') s := by
      rw [insertRecords, Act.bind_ok hread]
      cases l with
      | nil => exact absurd rfl hl
      | cons c l =>
        show ((g.add (c :: l)).1.forM insert >>= fun _ => _) s = _
        cases (g.add (c :: l)).1 <;> simp [Option.forM]
    rw [hstep, Gathering.records, forM_append]
    rcases hinsert : (g.add l).1.toList.forM insert s with ⟨e | ⟨⟩, s'⟩
    · rw [Act.bind_error hinsert, Act.bind_error hinsert]
    · rw [Act.bind_ok hinsert, Act.bind_ok hinsert]
      exact ih (by simpa using hfuel) (g.add l).2 ((Act.Keeps.forM h.keeps _).apply hs hinsert)
        (hpath'.trans hpath) hawaits' hleft'

/-- The records that are given on are those of the text of the file. -/
theorem insertRecords_eq (h : Harmless insert path bytes I) {text : List Char} {s : Scene Console}
    (hs : I s) (hbytes : bytes = Text.utf8 text) {source : Source} (hsource : source =
      { path, reader := { ends := .kept } }) :
    (do insertRecords insert (← Act.lineLimit source) {} source) s =
      (Delimited.records text).forM insert s := by
  subst hsource hbytes
  have hlimit : (Text.anyLines text).length + 2 ≤ (Text.utf8 text).length + Act.maxAddedLines := by
    have h₁ := Text.length_anyLines_le text
    have h₂ := Text.length_le_length_utf8 text
    simp only [Act.maxAddedLines]
    omega
  have hread : Act.lineLimit { path, reader := { ends := .kept } } s =
      (.ok ((Text.utf8 text).length + Act.maxAddedLines), s) := by
    simp [Act.lineLimit, Act.bind_apply, Act.world, h.content s hs, Act.pure_apply]
  rw [Act.bind_ok hread]
  exact insertRecords_lines h hlimit {} hs rfl (Text.Reader.awaits_start text) rfl

end Insert
end SqlConsole.Console

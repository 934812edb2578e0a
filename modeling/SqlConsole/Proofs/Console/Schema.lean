import SqlConsole.Console.Catalog
import SqlConsole.Proofs.Console.Connects
import SqlConsole.Proofs.Dump.Oblivious
import SqlConsole.Proofs.Dump.Separate
import SqlConsole.Proofs.Layout.Rows

/-! The text of a schema, which is written with a semicolon behind it: in a list of the schema, and in
the script that creates a database anew. Whether a statement ends with that. -/
namespace SqlConsole
open Act (Ensures)
open Dump (Piece Wrote)
open Sql (Value)
open Statement (EndsInComment State isComplete isCompleteFrom isJudged)

/-- Schema text with its semicolon. -/
def schemaRecord (sql : List Char) : List Char := sql ++ [';', '\n']

namespace Console

/-- What the engine is given where the schema is listed, all of it or what is like a pattern. -/
inductive Lists : Option String → String → List Value → Prop
  | all : Lists none schemaQuery []
  | like {p : String} (h : catalogSchema? (String.ofList (Text.lower p.toList)) = none) :
      Lists (some p) likeSchemaQuery [.text (String.ofList (Text.lower p.toList))]

theorem Lists.showSchema_eq {pattern? : Option String} {sql : String} {bindings : List Value}
    (h : Lists pattern? sql bindings) :
    showSchema pattern? = showQuery schemaSettings sql bindings := by
  cases h with
  | all => rfl
  | like h => simp only [showSchema, h]

section Rows
variable {session : Session} {w₀ : World} {asides : List Piece} {texts : List (List Char)}

private theorem rowText_schema (session : Session) (kept : List Int) (columns : List String)
    (sql : String) (typed : Bool) (index : Int) :
    Layout.rowText (schemaSettings session.settings) kept
      { columns, values := [.text sql], typed, index } = some (schemaRecord sql.toList, kept) := by
  simp [Layout.rowText, schemaSettings, Layout.listText, Layout.headed, Layout.joined,
    Layout.Row.isHeaded, Layout.Row.texts, Value.shown, Value.text?, schemaRecord]

private theorem schemaRow_wrote {values : List Value} (hvalues : ∃ sql, values = [.text sql])
    (columns : List String) (index : Int) {E : Failure → Scene (List Int) → Prop} :
    Ensures (fun s : Scene (List Int) => Wrote session w₀ asides texts s.world)
      (do
        Layout.writeRow { session with settings := schemaSettings session.settings }
          { columns, values, typed := false, index }
        pure false)
      (fun stop s => stop = false ∧
        Wrote session w₀ asides (texts ++ [schemaRecord (values.flatMap (·.shown []))]) s.world) E := by
  obtain ⟨sql, rfl⟩ := hvalues
  refine .bind (Q := fun _ s => Wrote session w₀ asides (texts ++ [schemaRecord sql.toList]) s.world)
    (fun s hs => ?_) fun _ => .pure fun _ hs => ⟨rfl, by simpa [Value.shown, Value.text?] using hs⟩
  rw [Layout.writeRow_of_text (rowText_schema session s.own columns sql false index)]
  exact Dump.write_wrote (schemaRecord sql.toList) ⟨s.world, s.own⟩ hs

/-- Where the engine lists schema text, each text is written with its semicolon. -/
theorem showQuery_writes {s : Scene Console} {db : Connection} (hdb : (connection s).1 = .ok db)
    (hready : Dump.Ready s.own.session s.world) (query : String) (bindings : List Value)
    {sqls : List String}
    (hrows : (s.world.script.answer query).1.rows.getD [] = sqls.map fun sql => [.text sql]) :
    ∃ asides : List Piece,
      (∀ p ∈ asides, p.isAside ∧ s.own.session.Listens s.own.session.output) ∧
      (showQuery schemaSettings query bindings s).2.world.written s.own.session.output =
        s.world.written s.own.session.output ++ asides.map (fun p => String.ofList p.text) ++
          sqls.map fun sql => String.ofList (schemaRecord sql.toList) := by
  obtain ⟨t, hconnection, ht⟩ := exists_connected hdb
  let inner : Scene (List Int) := ⟨t.world, []⟩
  have hinner : Dump.Ready s.own.session inner.world := hready.of_target ht.target ht.taking
  let texts (taken : List (List Value)) : List (List Char) :=
    taken.map fun values => schemaRecord (values.flatMap (·.shown []))
  have htexts : texts (sqls.map fun sql => [.text sql]) =
      sqls.map fun sql => schemaRecord sql.toList := by
    simp [texts, Value.shown, Value.text?]
  have htext (values : List Value) (hmem : values ∈ sqls.map fun sql => [Value.text sql]) :
      ∃ sql, values = [.text sql] := by
    obtain ⟨sql, -, rfl⟩ := List.mem_map.1 hmem
    exact ⟨sql, rfl⟩
  obtain ⟨asides, hasides, hquery⟩ := Dump.query_ended db bindings
    (fun columns index values => do
      Layout.writeRow
        { s.own.session with settings := schemaSettings s.own.session.settings }
        { columns, values, typed := false, index := index }
      pure false) texts hinner (show (inner.world.script.answer query).1 = _ from rfl) rfl
    fun taken values rest hall asides E => by
      have hvalues := htext values (by rw [← hrows, ← ht.script, hall]; simp)
      simpa only [texts, List.map_append, List.map_singleton] using schemaRow_wrote hvalues _ _
  refine ⟨asides, hasides, ?_⟩
  have hshown := hquery.leads (R := fun u => u.world.written s.own.session.output =
    t.world.written s.own.session.output ++ asides.map (fun p => String.ofList p.text) ++
      (texts (sqls.map fun sql => [.text sql])).map String.ofList) rfl
    (fun _ u hu => by rw [← hrows, ← ht.script]; exact hu.2.2)
    (fun _ u hu => by rw [← hrows, ← ht.script]; exact hu.2.2)
  rw [htexts, List.map_map, ht.written] at hshown
  rw [showQuery, Act.bind_ok hconnection, Act.bind_ok (show Act.own t = (.ok t.own, t) from rfl),
    ht.session]
  exact hshown

end Rows

end Console

namespace Dump
variable {session : Session} {db : Connection} {name sql : String} {kind : Value}

private theorem object_plain (hname : ¬ "sqlite_".toList.isPrefixOf name.toList)
    (hsql : ¬ isVirtualTable sql) : object session db (.text name) kind (.text sql) = (do
      putLine session (sql ++ ";")
      if kind = .text "table" then content session db name [] else pure ()) := by
  unfold object
  dsimp only
  split
  · next h =>
    obtain rfl := Value.text.inj h
    exact absurd (by decide) hname
  · next h =>
    obtain rfl := Value.text.inj h
    exact absurd (by decide) hname
  · have hown : (!"sqlite_".toList.isPrefixOf name.toList) = true := by
      rw [Bool.eq_false_iff.2 hname]
      rfl
    simp only [Execute.textOf, Execute.require, pure_bind]
    rw [if_pos hown, if_neg hsql]

/-- What is written first of a table that is neither virtual nor the engine's own. -/
theorem object_writes (hname : ¬ "sqlite_".toList.isPrefixOf name.toList)
    (hsql : ¬ isVirtualTable sql) {s : Scene Tally} (hopen : s.world.Accepts session.output) :
    ∃ more, (object session db (.text name) kind (.text sql) s).2.world.written session.output =
      s.world.written session.output ++ String.ofList (schemaRecord sql.toList) :: more := by
  obtain ⟨w, hwrite, -, hpast⟩ := Act.exists_write hopen (schemaRecord sql.toList)
  have hput : putLine session (sql ++ ";") s = (.ok (), ⟨w, s.own⟩) := by
    rw [← hwrite]
    simp [putLine, put, schemaRecord]
  have hrest : Act.Oblivious
      (if kind = .text "table" then content session db name [] else pure () : Act Tally Unit) := by
    split
    · exact oblivious_content ..
    · exact .pure ()
  obtain ⟨done, hdone⟩ := hrest.suffix ⟨w, s.own⟩
  refine ⟨(done.filterMap (Deed.textTo? session.output)).reverse, ?_⟩
  rw [object_plain hname hsql, Act.bind_ok hput, World.written, ← hdone, hpast, World.written]
  simp [Deed.textTo?]

end Dump

namespace Console

theorem isJudged_schemaRecord {t : List Char} (h : isJudged (t ++ ['\n', ';'])) :
    isJudged (schemaRecord t) := by
  simp_all [isJudged, schemaRecord]

/-- Schema text that a semicolon on the next line completes is completed by one right behind it too,
and nothing that follows gets into it, unless it ends in a line comment and was not complete before.
The list of a schema writes each of its texts so, and the dump that of a table. -/
theorem schemaRecord_complete_iff (sql : String) (hjudged : isJudged (sql.toList ++ ['\n', ';']))
    (hcomplete : isComplete (sql.toList ++ ['\n', ';'])) :
    isJudged (schemaRecord sql.toList) ∧
    (isComplete (schemaRecord sql.toList) ↔ (EndsInComment sql.toList → isComplete sql.toList)) ∧
    (∃ q : State, (q = .start ↔ isComplete (schemaRecord sql.toList)) ∧
      ∀ rest, isComplete (schemaRecord sql.toList ++ rest) = isCompleteFrom q rest) ∧
    (∀ pattern? query bindings, Lists pattern? query bindings →
      ∀ (s : Scene Console) db (before behind : List String), (connection s).1 = .ok db →
      Dump.Ready s.own.session s.world →
      (s.world.script.answer query).1.rows.getD [] =
        (before ++ sql :: behind).map (fun listed => [.text listed]) →
      ∃ asides : List Piece,
        (∀ p ∈ asides, p.isAside ∧ s.own.session.Listens s.own.session.output) ∧
        (showSchema pattern? s).2.world.written s.own.session.output =
          s.world.written s.own.session.output ++ asides.map (fun p => String.ofList p.text) ++
            (before ++ sql :: behind).map fun listed => String.ofList (schemaRecord listed.toList)) ∧
    ∀ session db name kind (s : Scene Dump.Tally),
      ¬ "sqlite_".toList.isPrefixOf name.toList → ¬ Dump.isVirtualTable sql →
      s.world.Accepts session.output →
      ∃ more,
        (Dump.object session db (.text name) kind (.text sql) s).2.world.written session.output =
          s.world.written session.output ++ String.ofList (schemaRecord sql.toList) :: more := by
  obtain ⟨q, hstart, hbehind⟩ := Statement.exists_behind_line hcomplete
  have hread (rest : List Char) :
      isComplete (schemaRecord sql.toList ++ rest) = isCompleteFrom q rest := by
    rw [← hbehind rest, schemaRecord]
    simp
  have hown : isComplete (schemaRecord sql.toList) ↔ q = .start := by
    have hnil := hread []
    rw [List.append_nil, isCompleteFrom] at hnil
    rw [hnil, beq_iff_eq]
  refine ⟨isJudged_schemaRecord hjudged, hown.trans hstart, ⟨q, hown.symm, hread⟩,
    fun pattern? query bindings hlists s db before behind hdb hready hrows => ?_,
    fun session db name kind s hname hsql hopen => Dump.object_writes hname hsql hopen⟩
  rw [hlists.showSchema_eq]
  exact showQuery_writes hdb hready query bindings hrows

/-- A console whose database holds one object, created by this text. -/
def holding (sql : String) : Scene Console where
  world :=
    { script := { answers :=
      [{ sql := schemaQuery, columns := ["sql"], rows := some [[.text sql]] }] } }
  own := {}

/-- A text that dashes in quotes stand in, and that no comment ends. -/
theorem schemaRecord_complete_iff_dashes :
    let sql := "CREATE TABLE t(x DEFAULT '--')"
    let t := sql.toList
    isJudged (t ++ ['\n', ';']) ∧ isComplete (t ++ ['\n', ';']) ∧
      (isComplete (schemaRecord t) ↔ (EndsInComment t → isComplete t)) ∧
      Lists none schemaQuery [] ∧
      (connection (holding sql)).1 = .ok { filename := ":memory:" } ∧
      Dump.Ready {} (holding sql).world ∧
      (∃ asides : List Piece, (showSchema none (holding sql)).2.world.written .stdout =
        asides.map (fun p => String.ofList p.text) ++ [String.ofList (schemaRecord t)]) ∧
      ∃ more, (Dump.object {} { filename := ":memory:" } (.text "t") (.text "table") (.text sql)
        ⟨{}, {}⟩).2.world.written .stdout = String.ofList (schemaRecord t) :: more := by
  intro sql t
  have hjudged : isJudged (t ++ ['\n', ';']) := by decide +kernel
  have hcomplete : isComplete (t ++ ['\n', ';']) := by decide +kernel
  have hdb : (connection (holding sql)).1 = .ok { filename := ":memory:" } := by rfl
  have hready : Dump.Ready {} (holding sql).world := ⟨trivial, nofun, nofun⟩
  obtain ⟨-, htext, -, hschema, hobject⟩ := schemaRecord_complete_iff sql hjudged hcomplete
  obtain ⟨asides, -, hlist⟩ :=
    hschema none schemaQuery [] .all (holding sql) _ [] [] hdb hready (by decide +kernel)
  exact ⟨hjudged, hcomplete, htext, .all, hdb, hready, ⟨asides, hlist⟩,
    hobject {} _ "t" _ ⟨{}, {}⟩ (by decide +kernel) (by decide +kernel) trivial⟩

/-- A comment at the end of the text hides the semicolon, and the next statement gets into the text. -/
theorem schemaRecord_absorbs :
    let view := "CREATE VIEW v AS SELECT 1 -- c"
    let table := "CREATE TABLE t(x) -- c"
    (showSchema none (holding view)).2.world.written .stdout =
        [String.ofList (schemaRecord view.toList)] ∧
      (Dump.object {} { filename := ":memory:" } (.text "t") (.text "table") (.text table)
        ⟨{}, {}⟩).2.world.written .stdout = [String.ofList (schemaRecord table.toList)] ∧
      ∀ sql ∈ [view, table],
        isJudged (sql.toList ++ ['\n', ';']) ∧ isComplete (sql.toList ++ ['\n', ';']) ∧
        ¬ isComplete (schemaRecord sql.toList) ∧
        Statement.parts (schemaRecord sql.toList ++ "SELECT 2;".toList) =
          [schemaRecord sql.toList ++ "SELECT 2;".toList] := by
  decide +kernel

end Console
end SqlConsole

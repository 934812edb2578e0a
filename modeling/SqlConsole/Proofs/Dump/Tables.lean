import SqlConsole.Proofs.Dump.Penned
import SqlConsole.Proofs.Dump.Report

/-! Dumps of catalogs that hold nothing but ordinary tables. A scan of the catalog that breaks off as
corrupt is made again from the other end, and the tables that it came to before are written again. -/
namespace SqlConsole.Dump
open Act
open Engine (Answer Script)
open Sql (Value)

/-- What creates a table, where the piece does. -/
def Piece.created? : Piece → Option String
  | create sql => some sql
  | _ => none

/-- A table as the engine shows it: what creates it, its columns, and the values of which its content
is made up in the script. -/
structure Table where
  name : String
  sql : String
  columns : List String
  rows : List (List Value)
  deriving DecidableEq, Repr

namespace Table

/-- The row of the catalog for the table. -/
def entry (t : Table) : List Value := [.text t.name, .text "table", .text t.sql]

def columnsText (t : Table) : String :=
  String.ofList ("PRAGMA table_info(".toList ++ Sql.quoteIdentifier t.name.toList ++ [')', ';'])

def rowsText (t : Table) : String :=
  String.ofList (contentText t.name.toList (t.columns.map String.toList))

/-- What the script holds of the table. -/
def pieces (t : Table) : List Piece := .create t.sql :: t.rows.map .row

theorem created_pieces (t : Table) : t.pieces.filterMap Piece.created? = [t.sql] := by
  have hrows : (t.rows.map Piece.row).filterMap Piece.created? = [] :=
    List.filterMap_eq_nil_iff.2 fun p hp => by
      obtain ⟨values, -, rfl⟩ := List.mem_map.1 hp
      rfl
  show t.sql :: (t.rows.map Piece.row).filterMap Piece.created? = [t.sql]
  rw [hrows]

theorem created_flatMap (tables : List Table) :
    (tables.flatMap pieces).filterMap Piece.created? = tables.map Table.sql := by
  induction tables with
  | nil => rfl
  | cons t tables ih => simp [created_pieces, ih]

/-- The table has columns, is not virtual, and is none that the engine keeps for itself. -/
structure Ordinary (t : Table) : Prop where
  name : "sqlite_".toList.isPrefixOf t.name.toList = false
  sql : isVirtualTable t.sql = false
  columns : t.columns ≠ []

/-- The engine tells the columns and the content of the table. -/
structure Readable (script : Script) (t : Table) : Prop where
  columns : script.Answers t.columnsText fun a =>
    a.fault = none ∧ (a.rows.getD []).map (·[1]?) = t.columns.map (some ∘ .text)
  rows : script.Answers t.rowsText fun a => a.fault = none ∧ a.rows.getD [] = t.rows

end Table

variable {session : Session} {w₀ : World} {known : List Answer} {pieces : List Piece}
  {db : Connection} {t : Table} {o : Tally}

theorem gather_penned (ht : t.Readable w₀.script) {E : Failure → Scene Tally → Prop} :
    Ensures (fun s => s.own = o ∧ Penned session w₀ known pieces s.world)
      (Execute.gather session db t.columnsText [] (Execute.valueAt 1))
      (fun columns s => columns = t.columns.map .text ∧ s.own = o ∧
        Penned session w₀ known pieces s.world) E := by
  refine .within fun o' => ?_
  let own (taken : List (List Value)) (names : List Value) : Prop :=
    names.map some = (taken.map (·[1]?)).reverse
  refine .bind (Q := fun _ s => s.own.reverse = t.columns.map .text ∧ o' = o ∧
    Penned session w₀ known pieces s.world) ?_ fun _ => .bind (Q := fun names s =>
      names.reverse = t.columns.map .text ∧ o' = o ∧ Penned session w₀ known pieces s.world)
        (.own fun s hs => hs) fun names => .pure fun s hs => hs
  rintro s ⟨hown, ho, hs⟩
  refine (query_penned own (fun _ => []) ht.columns []
    rfl ?_ s ⟨by simp [own, hown], hs⟩).mono ?_ ?_
  · rintro a - ⟨-, hcolumns⟩ taken values rest hrows s ⟨hown, hs⟩
    have hmem : values[1]? ∈ t.columns.map (some ∘ Value.text) := by
      rw [← hcolumns, hrows]
      exact List.mem_map_of_mem (by simp)
    obtain ⟨c, -, hc⟩ := List.mem_map.1 hmem
    have hvalue : Execute.valueAt 1 values = .ok (.text c) := by
      rw [Execute.valueAt, ← hc]
      rfl
    simp only [hvalue]
    refine ⟨rfl, ?_, hs⟩
    show (.text c :: s.own).map some = _
    rw [List.map_cons, show s.own.map some = _ from hown, List.map_append, List.reverse_append,
      List.map_singleton, ← hc]
    rfl
  · rintro _ s ⟨a, -, ⟨-, hcolumns⟩, -, hown, hs⟩
    refine ⟨?_, ho, (by simpa using hs : Penned session w₀ (a :: known) pieces s.world).mono
      (List.subset_cons_self a known)⟩
    have hsome : s.own.reverse.map some = (t.columns.map Value.text).map some := by
      rw [List.map_reverse, show s.own.map some = _ from hown, List.reverse_reverse, hcolumns,
        List.map_map]
    exact List.map_injective_iff.2 (fun _ _ => Option.some.inj) hsome
  · rintro e s ⟨a, f, -, ⟨hnone, -⟩, hfault, -⟩
    rw [hnone] at hfault
    cases hfault

/-- The content of a table, whose rows become statements. -/
theorem content_penned (hcolumns : t.columns ≠ []) (ht : t.Readable w₀.script)
    {E : Failure → Scene Tally → Prop} :
    Ensures (fun s => s.own = o ∧ Penned session w₀ known pieces s.world)
      (content session db t.name [])
      (fun _ s => s.own = o ∧ Penned session w₀ known (pieces ++ t.rows.map .row) s.world) E := by
  have hquery : Ensures (fun s => s.own = o ∧ Penned session w₀ known pieces s.world)
      (contentQuery session db t.name)
      (fun q s => q = some t.rowsText ∧ s.own = o ∧ Penned session w₀ known pieces s.world) E := by
    refine .bind (gather_penned ht) fun columns => .assume ?_
    rintro rfl
    have hsome : (t.columns.map Value.text).isEmpty = false := by simpa using hcolumns
    simp only [hsome, mapM_textOf, Execute.require, Bool.false_eq_true, if_false, pure_bind]
    exact .pure fun s hs => ⟨rfl, hs⟩
  refine .bind hquery fun q => .assume ?_
  rintro rfl
  have hrows : Ensures (fun s => s.own = o ∧ Penned session w₀ known pieces s.world)
      (rows session db t.rowsText [] [])
      (fun r s => r = none ∧ s.own = o ∧
        Penned session w₀ known (pieces ++ t.rows.map .row) s.world) E := by
    refine (rows_penned ht.rows [] o).mono (fun _ h => h) ?_ ?_
    · rintro r s ⟨a, -, ⟨hnone, hrows⟩, hfault, hown, hs⟩
      obtain rfl : r = none := by simpa [hnone] using hfault.symm
      rw [hrows] at hs
      exact ⟨rfl, by simpa using hown, (by simpa using hs : Penned session w₀ (a :: known) _ _).mono
        (List.subset_cons_self a known)⟩
    · rintro _ s ⟨a, ⟨hnone, -⟩, hfault⟩
      rw [hnone] at hfault
      cases hfault
  refine .bind hrows fun r => .assume ?_
  rintro rfl
  exact .pure fun _ hs => hs

/-- A table becomes what creates it, with its content. -/
theorem object_penned (hordinary : t.Ordinary) (ht : t.Readable w₀.script)
    (hp : (Piece.create t.sql).Stems session known) {E : Failure → Scene Tally → Prop} :
    Ensures (fun s => s.own = o ∧ Penned session w₀ known pieces s.world)
      (object session db (.text t.name) (.text "table") (.text t.sql))
      (fun _ s => s.own = o ∧ Penned session w₀ known (pieces ++ t.pieces) s.world) E := by
  have hname := hordinary.name
  unfold object
  dsimp only
  split
  · next h =>
    rw [Value.text.inj h] at hname
    exact absurd hname (by decide)
  · next h =>
    rw [Value.text.inj h] at hname
    exact absurd hname (by decide)
  · simp only [Execute.require, Execute.textOf, pure_bind, hname, hordinary.sql, Bool.not_false,
      Bool.false_eq_true, if_true, if_false]
    refine (Ensures.bind (put_penned (p := .create t.sql) hp rfl o) fun _ =>
      content_penned hordinary.columns ht).post fun _ s hs => ⟨hs.1, ?_⟩
    rw [Table.pieces, List.append_cons]
    exact hs.2

/-- The tables that a query lists, however it ends. -/
theorem listed_penned {q : String} {P : Answer → Prop} {seen : List Table}
    (hanswers : w₀.script.Answers q P) (hrows : ∀ a, P a → a.rows.getD [] = seen.map Table.entry)
    (hordinary : ∀ t ∈ seen, t.Ordinary) (hreadable : ∀ t ∈ seen, t.Readable w₀.script)
    {E : Failure → Scene Tally → Prop} :
    Ensures (fun s => s.own = o ∧ Penned session w₀ known pieces s.world)
      (attempt (listed session db q []))
      (fun r s => ∃ a, P a ∧ r = ended a.fault ∧ s.own = o ∧
        Penned session w₀ (a :: known) (pieces ++ seen.flatMap Table.pieces) s.world) E := by
  let made (taken : List (List Value)) : List Piece :=
    (seen.take taken.length).flatMap Table.pieces
  have hmade {a : Answer} (hP : P a) : made (a.rows.getD []) = seen.flatMap Table.pieces := by
    simp [made, hrows a hP]
  refine (attempt_query_penned (fun _ => (· = o)) made hanswers [] rfl ?_).post ?_
  · intro a _ hP taken values rest hsplit
    have hseen := hrows a hP
    rw [hsplit] at hseen
    obtain ⟨before, others, rfl, hbefore, hothers⟩ := List.append_eq_map_iff.1 hseen
    obtain ⟨t, after, rfl, rfl, -⟩ := List.map_eq_cons_iff.1 hothers
    have hmem : t ∈ before ++ t :: after := by simp
    have hlength : taken.length = before.length := by rw [← hbefore, List.length_map]
    have hp : (Piece.create t.sql).Stems session (a :: known) :=
      ⟨a, List.mem_cons_self, .text t.name, .text "table", by rw [hsplit]; simp [Table.entry]⟩
    refine .bind (object_penned (hordinary t hmem) (hreadable t hmem) hp) fun _ =>
      .pure fun s hs => ⟨rfl, hs.1, ?_⟩
    have hnext : made (taken ++ [t.entry]) = made taken ++ t.pieces := by
      simp [made, hlength, List.take_length_add_append]
    rw [hnext, ← List.append_assoc]
    exact hs.2
  · rintro r s ⟨a, -, hP, hr, hown, hs⟩
    exact ⟨a, hP, hr, hown, hmade hP ▸ hs⟩

/-- What the script holds of a scan of the catalog that saw some tables, by its error, and by the
error of the scan from the other end that is made after corruption. -/
def scanned (seen back : List Table) : Option Engine.Error → Option Engine.Error → List Piece
  | none, _ => seen.flatMap Table.pieces
  | some e, again => seen.flatMap Table.pieces ++
    if e.kind = .corrupt then
      .corruption e :: back.flatMap Table.pieces ++ (again.map .catalogError).toList
    else [.catalogError e]

/-- Without tables only errors are told of. -/
theorem reported_of_scanned {first again : Option Engine.Error} {p : Piece}
    (hp : p ∈ scanned [] [] first again) : p.reported?.isSome := by
  cases first with
  | none => cases hp
  | some e =>
    simp only [scanned, List.flatMap_nil, List.nil_append, List.cons_append] at hp
    split at hp
    · rcases List.mem_cons.1 hp with rfl | hp
      · rfl
      · obtain ⟨e', -, rfl⟩ := Option.map_eq_some_iff.1 (Option.mem_toList.1 hp)
        rfl
    · rw [List.mem_singleton.1 hp]
      rfl

/-- An error of the catalog is told of in the script and counted. -/
private theorem report_penned {e : Engine.Error} (hp : (Piece.catalogError e).Stems session known) :
    Ensures (fun s => s.own = o ∧ Penned session w₀ known pieces s.world)
      (do put session (catalogErrorText e); countError)
      (fun _ s => s.own.catalogWritable = o.catalogWritable ∧
        Penned session w₀ known (pieces ++ [.catalogError e]) s.world) (fun _ _ => True) :=
  .bind (put_penned hp rfl o) fun _ => (countError_penned o).post fun _ _ hs => ⟨by rw [hs.1], hs.2⟩

/-- The scan from the other end, behind the error that it is made for. -/
private theorem again_penned {q : String} {P : Answer → Prop} {back : List Table} {e : Engine.Error}
    (hp : (Piece.corruption e).Stems session known) (hanswers : w₀.script.Answers (reversed q) P)
    (hrows : ∀ a, P a → a.rows.getD [] = back.map Table.entry)
    (hordinary : ∀ t ∈ back, t.Ordinary) (hreadable : ∀ t ∈ back, t.Readable w₀.script) :
    Ensures (fun s => s.own = o ∧ Penned session w₀ known pieces s.world)
      (do
        put session (corruptionText e)
        match ← attempt (listed session db (reversed q) []) with
        | .ok _ => pure ()
        | .error (.engine e) => do put session (catalogErrorText e); countError
        | .error f => Act.fail f)
      (fun _ s => s.own.catalogWritable = o.catalogWritable ∧ ∃ again : Option Engine.Error,
        (∀ e' ∈ again, ∃ a, P a ∧ a.fault = some (.error e')) ∧
        Penned session w₀ known (pieces ++ (.corruption e :: back.flatMap Table.pieces ++
          (again.map .catalogError).toList)) s.world)
      (fun _ _ => True) := by
  refine .bind (put_penned (p := .corruption e) hp rfl o) fun _ =>
    .bind (listed_penned hanswers hrows hordinary hreadable) fun r => ?_
  rintro s ⟨a, hP, rfl, hs⟩
  have hpieces (again : Option Engine.Error) :
      pieces ++ (.corruption e :: back.flatMap Table.pieces ++ (again.map .catalogError).toList) =
        pieces ++ [.corruption e] ++ back.flatMap Table.pieces ++
          (again.map .catalogError).toList := by
    simp
  cases hfault : a.fault with
  | none =>
    refine ⟨by rw [hs.1], none, by simp, ?_⟩
    rw [hpieces]
    simpa using hs.2.mono (List.subset_cons_self a known)
  | some f =>
    cases f with
    | interrupted => exact trivial
    | error e' =>
      refine (report_penned ⟨a, List.mem_cons_self, hfault⟩ s hs).mono ?_ fun _ _ h => h
      rintro _ s ⟨hown, hs⟩
      refine ⟨hown, some e', by simpa using ⟨a, hP, hfault⟩, ?_⟩
      rw [hpieces]
      exact hs.mono (List.subset_cons_self a known)

/-- What a query of the catalog, made again from the other end after corruption, adds to the script. -/
theorem objects_penned {q : String} {P P' : Answer → Prop} {seen back : List Table}
    (hanswers : w₀.script.Answers q P) (hagain : w₀.script.Answers (reversed q) P')
    (hrows : ∀ a, P a → a.rows.getD [] = seen.map Table.entry)
    (hrows' : ∀ a, P' a → a.rows.getD [] = back.map Table.entry)
    (hordinary : ∀ t ∈ seen ++ back, t.Ordinary)
    (hreadable : ∀ t ∈ seen ++ back, t.Readable w₀.script) :
    Ensures (fun s => s.own = o ∧ Penned session w₀ known pieces s.world)
      (objects session db q [])
      (fun _ s => s.own.catalogWritable = o.catalogWritable ∧ ∃ first again,
        (∃ a, P a ∧ a.fault = first.map .error) ∧
        (∀ e ∈ again, ∃ a, P' a ∧ a.fault = some (.error e)) ∧
        Penned session w₀ known (pieces ++ scanned seen back first again) s.world)
      (fun _ _ => True) := by
  have hsubset (a : Answer) : known ⊆ a :: known := List.subset_cons_self a known
  refine .bind (listed_penned hanswers hrows
    (fun t ht => hordinary t (List.mem_append_left _ ht))
    fun t ht => hreadable t (List.mem_append_left _ ht)) fun r => ?_
  rintro s ⟨a, hP, rfl, hs⟩
  cases hfault : a.fault with
  | none => exact ⟨by rw [hs.1], none, none, ⟨a, hP, hfault⟩, by simp, hs.2.mono (hsubset a)⟩
  | some f =>
    cases f with
    | interrupted => exact trivial
    | error e =>
      simp only [ended, Failure.ofFault]
      split
      · next hcorrupt =>
        refine (again_penned ⟨hcorrupt, a, List.mem_cons_self, hfault⟩ hagain hrows'
          (fun t ht => hordinary t (List.mem_append_right _ ht))
          (fun t ht => hreadable t (List.mem_append_right _ ht)) s hs).mono ?_ fun _ _ h => h
        rintro _ s ⟨hown, again, hfault', hs⟩
        refine ⟨hown, some e, again, ⟨a, hP, hfault⟩, hfault', ?_⟩
        rw [scanned, if_pos hcorrupt, ← List.append_assoc]
        exact hs.mono (hsubset a)
      · next hsound =>
        refine (report_penned ⟨a, List.mem_cons_self, hfault⟩ s hs).mono ?_ fun _ _ h => h
        rintro _ s ⟨hown, hs⟩
        refine ⟨hown, some e, none, ⟨a, hP, hfault⟩, by simp, ?_⟩
        rw [scanned, if_neg hsound, ← List.append_assoc]
        exact hs.mono (hsubset a)

end SqlConsole.Dump

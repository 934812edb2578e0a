import SqlConsole.Proofs.Dump.Tables

/-! A dump of a catalog of tables that may prove corrupt while it is scanned. -/
namespace SqlConsole.Dump
open Act
open Engine (Answer Script)
open Sql (Value)

/-- The engine has a catalog of ordinary tables. From its start it lists the first of them, all of
them unless it then reports corruption, and from its end it lists all. There is no table of automatic
keys. -/
structure Scan (script : Script) (catalog seen : List Table) (corruption : Option Engine.Error) :
    Prop where
  names : (catalog.map Table.name).Nodup
  ordinary : ∀ t ∈ catalog, t.Ordinary
  readable : ∀ t ∈ catalog, t.Readable script
  starts : seen <+: catalog
  whole : corruption = none → seen = catalog
  corrupt : ∀ e ∈ corruption, e.kind = .corrupt
  forward : script.Answers tablesQuery fun a =>
    a.fault = corruption.map .error ∧ a.rows.getD [] = seen.map Table.entry
  backward : script.Answers (reversed tablesQuery) fun a =>
    a.fault = none ∧ a.rows.getD [] = catalog.reverse.map Table.entry
  keys : script.Answers sequenceQuery fun a => a.rows.getD [] = []
  keysBackward : script.Answers (reversed sequenceQuery) fun a => a.rows.getD [] = []

/-- The tables that a dump describes, each time that it does. -/
def described (catalog seen : List Table) (corruption : Option Engine.Error) : List Table :=
  seen ++ if corruption.isSome then catalog.reverse else []

/-- A piece that has to do with no table: it tells of an error, or it is for an index, a trigger or a
view. -/
def Apart (script : Script) (p : Piece) : Prop :=
  p.reported?.isSome ∨ ∃ texts, ∃ values ∈ ((script.after texts).answer othersQuery).1.rows.getD [],
    p = .row values

/-- The script is made of these pieces and of some that have to do with no table, and the catalog has
not been made writable. -/
def Comprises (session : Session) (w₀ : World) (known : List Answer) (pieces : List Piece)
    (s : Scene Tally) : Prop :=
  s.own.catalogWritable = false ∧ ∃ others, (∀ p ∈ others, Apart w₀.script p) ∧
    Penned session w₀ known (pieces ++ others) s.world

/-- The whole script comprises these pieces, and its last line tells whether there are errors. -/
def Closes (session : Session) (w₀ : World) (pieces : List Piece) (n : Nat) (s : Scene Tally) :
    Prop :=
  ∃ inside others : List Piece,
    s.world.written session.output = w₀.written session.output ++
      inside.map (fun p => String.ofList p.text) ++
      [if n = 0 then "COMMIT;\n" else "ROLLBACK; -- due to errors\n"] ∧
    inside.filter (!·.isAside) = pieces ++ others ∧ ∀ p ∈ others, Apart w₀.script p

variable {session : Session} {w₀ : World} {known : List Answer} {db : Connection} {o : Tally}
  {catalog seen : List Table} {corruption : Option Engine.Error}

/-- After corruption the tables that had been seen are described again. -/
theorem Scan.count_described {script : Script} (h : Scan script catalog seen corruption) {t : Table}
    (ht : t ∈ catalog) :
    (described catalog seen corruption).count t = if corruption.isSome ∧ t ∈ seen then 2 else 1 := by
  have hnodup : catalog.Nodup :=
    List.Pairwise.of_map Table.name (fun _ _ h heq => h (congrArg _ heq)) h.names
  have hseen : seen.count t = if t ∈ seen then 1 else 0 :=
    (h.starts.sublist.nodup hnodup).count
  have hback : catalog.reverse.count t = 1 := by
    rw [List.count_reverse, hnodup.count, if_pos ht]
  cases corruption with
  | none => simp [described, h.whole rfl, hnodup.count, ht]
  | some e =>
    rw [described, List.count_append, hseen]
    simp only [Option.isSome_some, if_true, true_and, hback]
    split <;> rfl

/-- What adds only such pieces. -/
private theorem Comprises.of_apart {x : Act Tally Unit} {pieces : List Piece}
    (hx : ∀ (o : Tally) (pieces : List Piece),
      Ensures (fun s => s.own = o ∧ Penned session w₀ known pieces s.world) x
        (fun _ s => s.own.catalogWritable = o.catalogWritable ∧ ∃ others,
          (∀ p ∈ others, Apart w₀.script p) ∧ Penned session w₀ known (pieces ++ others) s.world)
        (fun _ _ => True)) :
    Ensures (Comprises session w₀ known pieces) x (fun _ => Comprises session w₀ known pieces)
      (fun _ _ => True) := by
  rintro s ⟨hown, others, hothers, hs⟩
  refine (hx s.own (pieces ++ others) s ⟨rfl, hs⟩).mono ?_ fun _ _ h => h
  rintro _ s' ⟨hown', others', hothers', hs'⟩
  refine ⟨hown'.trans hown, others ++ others', ?_, by rwa [← List.append_assoc]⟩
  exact fun p hp => (List.mem_append.1 hp).elim (hothers p) (hothers' p)

/-- Without a table of automatic keys nothing but errors comes of the query for it. -/
private theorem keys_comprises (hscan : Scan w₀.script catalog seen corruption)
    {pieces : List Piece} :
    Ensures (Comprises session w₀ known pieces) (objects session db sequenceQuery [])
      (fun _ => Comprises session w₀ known pieces) (fun _ _ => True) := by
  refine Comprises.of_apart fun o pieces => ?_
  have hnone (a : Answer) (h : a.rows.getD [] = []) : a.rows.getD [] = [].map Table.entry := h
  refine (objects_penned hscan.keys hscan.keysBackward hnone hnone (by simp) (by simp)).post ?_
  rintro _ s ⟨hown, first, again, -, -, hs⟩
  exact ⟨hown, _, fun p hp => .inl (reported_of_scanned hp), hs⟩

/-- Indexes, triggers and views. -/
private theorem others_comprises {pieces : List Piece} :
    Ensures (Comprises session w₀ known pieces) (discard (rows session db othersQuery [] []))
      (fun _ => Comprises session w₀ known pieces) (fun _ _ => True) := by
  refine Comprises.of_apart fun o pieces => ?_
  have hanswers : w₀.script.Answers othersQuery fun a =>
      ∃ texts, a = ((w₀.script.after texts).answer othersQuery).1 := fun texts => ⟨texts, rfl⟩
  refine .discard ((rows_penned hanswers [] o).mono (fun _ h => h) ?_ fun _ _ _ => trivial)
  rintro r s ⟨a, -, ⟨texts, ha⟩, -, hown, hs⟩
  rw [List.append_assoc] at hs
  refine ⟨by rw [hown], _, fun p hp => ?_, hs.mono (List.subset_cons_self a known)⟩
  rcases List.mem_append.1 hp with hp | hp
  · obtain ⟨values, hvalues, rfl⟩ := List.mem_map.1 hp
    exact .inr ⟨texts, values, ha ▸ hvalues, rfl⟩
  · obtain ⟨e, -, rfl⟩ := Option.map_eq_some_iff.1 (Option.mem_toList.1 hp)
    exact .inl rfl

/-- What creates the tables, in the order of the script. -/
theorem Scan.created {script : Script} (h : Scan script catalog seen corruption)
    {inside others : List Piece} (hothers : ∀ p ∈ others, Apart script p)
    (hinside : inside.filter (!·.isAside) =
      scanned seen catalog.reverse corruption none ++ others) :
    inside.filterMap Piece.created? = (described catalog seen corruption).map Table.sql := by
  have hasides : inside.filterMap Piece.created? =
      (inside.filter (!·.isAside)).filterMap Piece.created? := by
    rw [List.filterMap_filter]
    congr 1
    funext p
    cases p <;> rfl
  have hnone : others.filterMap Piece.created? = [] := by
    refine List.filterMap_eq_nil_iff.2 fun p hp => ?_
    rcases hothers p hp with hreported | ⟨_, values, -, rfl⟩
    · cases p with
      | create sql => cases hreported
      | _ => rfl
    · rfl
  rw [hasides, hinside, List.filterMap_append, hnone, List.append_nil, described]
  cases corruption with
  | none => simp [scanned, Table.created_flatMap]
  | some e =>
    have hcorruption : Piece.created? (.corruption e) = none := rfl
    simp [scanned, h.corrupt e rfl, Table.created_flatMap, hcorruption]

theorem body_comprises (hscan : Scan w₀.script catalog seen corruption) :
    Ensures (fun s => s.own = {} ∧ Penned session w₀ known [] s.world) (body session db [])
      (fun _ => Comprises session w₀ known (scanned seen catalog.reverse corruption none))
      (fun _ _ => True) := by
  have hcatalog {t : Table} (ht : t ∈ seen ++ catalog.reverse) : t ∈ catalog := by
    rcases List.mem_append.1 ht with ht | ht
    · exact hscan.starts.subset ht
    · exact List.mem_reverse.1 ht
  refine .bind ((objects_penned hscan.forward hscan.backward (fun a h => h.2) (fun a h => h.2)
    (fun t ht => hscan.ordinary t (hcatalog ht))
    fun t ht => hscan.readable t (hcatalog ht)).post ?_) fun _ =>
      .bind (keys_comprises hscan) fun _ => others_comprises
  rintro _ s ⟨hown, first, again, ⟨a, ⟨hfault, -⟩, hfirst⟩, hagain, hs⟩
  obtain rfl : first = corruption :=
    Option.map_injective (fun _ _ => Engine.Fault.error.inj) (hfirst.symm.trans hfault)
  obtain rfl : again = none := by
    rw [Option.eq_none_iff_forall_not_mem]
    intro e he
    obtain ⟨a, ⟨hnone, -⟩, hfault⟩ := hagain e he
    rw [hnone] at hfault
    cases hfault
  exact ⟨hown, [], by simp, by simpa using hs⟩

private theorem release_comprises {pieces : List Piece} :
    Ensures (Comprises session w₀ known pieces) (release session db)
      (fun _ => Comprises session w₀ known pieces) (fun _ _ => True) := by
  have hperform : Ensures (Comprises session w₀ known pieces)
      (Execute.perform session db "PRAGMA writable_schema=OFF; RELEASE dump;" [])
      (fun _ => Comprises session w₀ known pieces) (fun _ _ => True) :=
    Comprises.of_apart fun o pieces => (perform_penned o).post fun _ s hs =>
      ⟨by rw [hs.1], [], by simp, by simpa using hs.2⟩
  refine .bind (Q := fun t s => t.catalogWritable = false ∧ Comprises session w₀ known pieces s)
    (.own fun s hs => ⟨hs.1, hs⟩) fun t => .assume fun hwritable => ?_
  rw [hwritable]
  exact hperform

private theorem close_comprises {pieces : List Piece} {E : Failure → Scene Tally → Prop} :
    Ensures (Comprises session w₀ known pieces)
      (do
        let errors := (← Act.own).errors
        putLine session (if errors = 0 then "COMMIT;" else "ROLLBACK; -- due to errors")
        pure errors)
      (Closes session w₀ pieces) E := by
  rintro s ⟨-, others, hothers, texts, inside, hrecords, -, hinside⟩
  obtain ⟨w, hline, -, -, hwritten⟩ := exists_putLine hrecords.ready
    (if s.own.errors = 0 then "COMMIT;" else "ROLLBACK; -- due to errors")
  have hlast : (if s.own.errors = 0 then "COMMIT;" else "ROLLBACK; -- due to errors") ++ "\n" =
      if s.own.errors = 0 then "COMMIT;\n" else "ROLLBACK; -- due to errors\n" := by
    split <;> decide
  have hrun : (do
      let errors := (← Act.own).errors
      putLine session (if errors = 0 then "COMMIT;" else "ROLLBACK; -- due to errors")
      pure errors : Act Tally Nat) s = (.ok s.own.errors, ⟨w, s.own⟩) :=
    Act.bind_ok hline _
  rw [hrun]
  refine ⟨inside, others, ?_, hinside, hothers⟩
  rw [hwritten, hrecords.written, hlast]

/-- A dump of such a catalog that comes to its end describes each table with its content, once, or
twice where the scan from the start had seen it before it proved corrupt. Corruption is no error
here: the script is committed unless something else went wrong. -/
theorem script_describes {s s' : Scene Tally} {n : Nat} (hready : Ready session s.world)
    (hscan : Scan s.world.script catalog seen corruption)
    (hrun : script session db [] s = (.ok n, s')) :
    ∃ inside others : List Piece,
      s'.world.written session.output = s.world.written session.output ++
        ["PRAGMA foreign_keys=OFF;\n", "BEGIN TRANSACTION;\n"] ++
        inside.map (fun p => String.ofList p.text) ++
        [if n = 0 then "COMMIT;\n" else "ROLLBACK; -- due to errors\n"] ∧
      inside.filter (!·.isAside) = scanned seen catalog.reverse corruption none ++ others ∧
      (∀ p ∈ others, Apart s.world.script p) ∧
      inside.filterMap Piece.created? = (described catalog seen corruption).map Table.sql ∧
      ∀ t ∈ catalog, (described catalog seen corruption).count t =
        if corruption.isSome ∧ t ∈ seen then 2 else 1 := by
  obtain ⟨w₀, hfirst, hstays₀, -, hwritten₀⟩ :=
    exists_putLine (s := (⟨s.world, {}⟩ : Scene Tally)) hready "PRAGMA foreign_keys=OFF;"
  obtain ⟨w₁, hsecond, hstays₁, -, hwritten₁⟩ :=
    exists_putLine (s := (⟨w₀, {}⟩ : Scene Tally)) (hready.of_target hstays₀.target hstays₀.taking)
      "BEGIN TRANSACTION;"
  have hready₁ : Ready session w₁ :=
    (hready.of_target hstays₀.target hstays₀.taking).of_target hstays₁.target hstays₁.taking
  have hscript₁ : w₁.script = s.world.script := hstays₁.script.trans hstays₀.script
  have hscan₁ : Scan w₁.script catalog seen corruption := hscript₁ ▸ hscan
  let rest : Act Tally Nat := do
    Execute.perform session db "SAVEPOINT dump; PRAGMA writable_schema=ON" []
    (body session db []).ensuring (release session db)
    let errors := (← Act.own).errors
    putLine session (if errors = 0 then "COMMIT;" else "ROLLBACK; -- due to errors")
    pure errors
  have hstart : script session db [] s = rest ⟨w₁, {}⟩ :=
    (Act.bind_ok hfirst _).trans (Act.bind_ok hsecond _)
  have hrest : Ensures (fun s => s.own = {} ∧ Penned session w₁ [] [] s.world) rest
      (Closes session w₁ (scanned seen catalog.reverse corruption none)) (fun _ _ => True) :=
    .bind (perform_penned ({} : Tally)) fun _ =>
      .bind (.ensuring (body_comprises hscan₁) (fun _ => release_comprises) fun _ _ _ => .any _)
        fun _ => close_comprises
  obtain ⟨inside, others, hwritten, hinside, hothers⟩ :=
    hrest.apply_ok ⟨rfl, .refl hready₁⟩ (hstart ▸ hrun)
  refine ⟨inside, others, ?_, hinside, hscript₁ ▸ hothers, hscan₁.created hothers hinside,
    fun t ht => hscan.count_described ht⟩
  rw [hwritten, hwritten₁, hwritten₀]
  simp

/-- Two tables with a row each. -/
def tornCatalog : List Table :=
  ["t", "u"].map fun name =>
    { name, sql := "CREATE TABLE " ++ name ++ "(x)", columns := ["x"],
      rows := [[.text ("INSERT INTO \"" ++ name ++ "\" VALUES(1)")]] }

/-- The engine finds the catalog corrupt after the first of the tables. -/
def torn : Scene Tally where
  world :=
    { script := { answers :=
        [{ sql := tablesQuery, rows := some ((tornCatalog.take 1).map Table.entry),
           fault := some (.error ⟨.corrupt, "database disk image is malformed", some 11⟩) },
         { sql := reversed tablesQuery, rows := some (tornCatalog.reverse.map Table.entry) }] ++
        tornCatalog.flatMap fun t =>
          [{ sql := t.columnsText, rows := some (t.columns.map fun c => [.integer 0, .text c]) },
           { sql := t.rowsText, rows := some t.rows }] } }
  own := {}

theorem scan_torn : Scan torn.world.script tornCatalog (tornCatalog.take 1)
    (some ⟨.corrupt, "database disk image is malformed", some 11⟩) := by
  have hnodup : (torn.world.script.answers.map Answer.sql).Nodup := by decide +kernel
  have hordinary : ∀ t ∈ tornCatalog, "sqlite_".toList.isPrefixOf t.name.toList = false ∧
      isVirtualTable t.sql = false ∧ t.columns ≠ [] := by decide +kernel
  have hcolumns : ∀ t ∈ tornCatalog, (torn.world.script.answer t.columnsText).1.fault = none ∧
      ((torn.world.script.answer t.columnsText).1.rows.getD []).map (·[1]?) =
        t.columns.map (some ∘ .text) := by decide +kernel
  have hrows : ∀ t ∈ tornCatalog, (torn.world.script.answer t.rowsText).1.fault = none ∧
      (torn.world.script.answer t.rowsText).1.rows.getD [] = t.rows := by decide +kernel
  exact
    { names := by decide +kernel
      ordinary t ht := ⟨(hordinary t ht).1, (hordinary t ht).2.1, (hordinary t ht).2.2⟩
      readable t ht := ⟨.of_nodup hnodup (hcolumns t ht), .of_nodup hnodup (hrows t ht)⟩
      starts := List.take_prefix 1 tornCatalog
      whole := by simp
      corrupt := by simp
      forward := .of_nodup hnodup (by decide +kernel)
      backward := .of_nodup hnodup (by decide +kernel)
      keys := .of_nodup hnodup (by decide +kernel)
      keysBackward := .of_nodup hnodup (by decide +kernel) }

private theorem exists_of_toOption {σ α : Type} {r : Except Failure α × Scene σ} {a : α}
    (h : r.1.toOption = some a) : ∃ s', r = (.ok a, s') := by
  obtain ⟨_ | b, s'⟩ := r
  · cases h
  · obtain rfl := Option.some.inj h
    exact ⟨s', rfl⟩

theorem script_describes_torn :
    let corruption := some (⟨.corrupt, "database disk image is malformed", some 11⟩ : Engine.Error)
    let seen := tornCatalog.take 1
    ∃ s', script {} { filename := ":memory:" } [] torn = (.ok 0, s') ∧
      Scan torn.world.script tornCatalog seen corruption ∧
      ∃ inside others : List Piece,
        s'.world.written .stdout = torn.world.written .stdout ++
          ["PRAGMA foreign_keys=OFF;\n", "BEGIN TRANSACTION;\n"] ++
          inside.map (fun p => String.ofList p.text) ++
          [if 0 = 0 then "COMMIT;\n" else "ROLLBACK; -- due to errors\n"] ∧
        inside.filter (!·.isAside) = scanned seen tornCatalog.reverse corruption none ++ others ∧
        (∀ p ∈ others, Apart torn.world.script p) ∧
        inside.filterMap Piece.created? = (described tornCatalog seen corruption).map Table.sql ∧
        ∀ t ∈ tornCatalog, (described tornCatalog seen corruption).count t =
          if corruption.isSome ∧ t ∈ seen then 2 else 1 := by
  have hready : Ready {} torn.world := ⟨trivial, by simp, by simp⟩
  have hdone : (script {} { filename := ":memory:" } [] torn).1.toOption = some 0 := by
    decide +kernel
  obtain ⟨s', hrun⟩ := exists_of_toOption hdone
  exact ⟨s', hrun, scan_torn, script_describes hready scan_torn hrun⟩

/-- The table that was seen before the corruption is created twice by a script that is committed. -/
theorem script_creates_twice :
    let result := script {} { filename := ":memory:" } [] torn
    result.1.toOption = some 0 ∧ "COMMIT;\n" ∈ result.2.world.written .stdout ∧
      (result.2.world.written .stdout).count "CREATE TABLE t(x);\n" = 2 ∧
      (result.2.world.written .stdout).count "INSERT INTO \"t\" VALUES(1);\n" = 2 := by
  decide +kernel

end SqlConsole.Dump

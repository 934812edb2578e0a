import Mathlib.Algebra.Order.Floor.Div
import Mathlib.Data.Nat.ModEq
import SqlConsole.Proofs.Console.Naming
import SqlConsole.Proofs.Execute.Frame
import SqlConsole.Proofs.Layout.Columns

/-! Names listed in columns that are filled downwards. -/
namespace SqlConsole.Console
open Dump (Piece)
open Sql (Value)

/-- The longest of the names has this length. -/
structure IsLongest (names : List (List Char)) (longest : Nat) : Prop where
  le : ∀ name ∈ names, name.length ≤ longest
  exists_eq : ∃ name ∈ names, name.length = longest

/-- The names on lines, downwards first: each in its place, and nothing else in any place. -/
structure FilledDown (names : List (List Char)) (height : Nat) (lines : List (List (List Char))) :
    Prop where
  length : lines.length = height
  place : ∀ j name, names[j]? = some name →
    ∃ l, lines[j % height]? = some l ∧ l[j / height]? = some name
  only : ∀ i k l name, lines[i]? = some l → l[k]? = some name →
    ∃ j, names[j]? = some name ∧ j % height = i ∧ j / height = k

/-- A line of names in columns as long as the longest, with two blanks between columns. -/
def namesLine (longest : Nat) (names : List (List Char)) : List Char :=
  [' ', ' '].intercalate (names.map (Text.padRight longest))

section Places
variable {α : Type} {height i : Nat}

/-- Of entries that are numbered from `n` on, those whose numbers leave the remainder `i`. The first of
them is `d` places away. -/
private theorem getElem?_filter_mod (l : List α) {n d : Nat} (hd : d < height)
    (hn : (n + d) % height = i) (k : Nat) :
    (((l.zipIdx n).filter fun p => p.2 % height == i).map Prod.fst)[k]? = l[k * height + d]? := by
  induction l generalizing n d k with
  | nil => simp
  | cons a l ih =>
    rw [List.zipIdx_cons]
    cases d with
    | zero =>
      have hhere : n % height == i := by simpa using hn
      -- the next one is a whole round away
      have hnext : (n + 1 + (height - 1)) % height = i := by
        rw [show n + 1 + (height - 1) = n + height by omega, Nat.add_mod_right]
        exact hn
      rw [List.filter_cons, if_pos hhere, List.map_cons]
      cases k with
      | zero => simp
      | succ k =>
        have hround : (k + 1) * height + 0 = k * height + (height - 1) + 1 := by
          rw [Nat.succ_mul]
          omega
        rw [List.getElem?_cons_succ, ih (by omega) hnext, hround, List.getElem?_cons_succ]
    | succ d =>
      have hhere : ¬ n % height == i := by
        intro h
        have hmod : Nat.ModEq height (n + 0) (n + (d + 1)) := (beq_iff_eq.1 h).trans hn.symm
        have hzero : 0 % height = (d + 1) % height := hmod.add_left_cancel' n
        rw [Nat.zero_mod, Nat.mod_eq_of_lt hd] at hzero
        cases hzero
      have hnext : (n + 1 + d) % height = i := by rw [← hn, Nat.add_right_comm, Nat.add_assoc]
      rw [List.filter_cons, if_neg hhere, ih (by omega) hnext, ← Nat.add_assoc,
        List.getElem?_cons_succ]

end Places

/-- The names on a line. -/
def lineNames (names : List (List Char)) (i : Nat) : List (List Char) :=
  (names.zipIdx.filter fun p => p.2 % listLines names == i).map Prod.fst

/-- How many names of that length go beside each other, one at least. -/
def columnsFor (longest : Nat) : Nat := max (80 / (longest + 2)) 1

theorem columnsFor_pos (longest : Nat) : 0 < columnsFor longest :=
  Nat.lt_of_lt_of_le Nat.one_pos (Nat.le_max_right ..)

theorem exists_isLongest {names : List (List Char)} (hne : names ≠ []) :
    ∃ longest, IsLongest names longest := by
  obtain ⟨longest, hmax⟩ : ∃ n, (names.map List.length).max? = some n :=
    Option.ne_none_iff_exists'.1 (by simpa using hne)
  obtain ⟨hmem, hle⟩ := List.max?_eq_some_iff.1 hmax
  exact ⟨longest, fun name hname => hle _ (List.mem_map_of_mem hname), List.mem_map.1 hmem⟩

theorem foldl_max_le_iff (names : List (List Char)) (n m : Nat) :
    names.foldl (fun n s => max n s.length) n ≤ m ↔ n ≤ m ∧ ∀ name ∈ names, name.length ≤ m := by
  induction names generalizing n with
  | nil => simp
  | cons name names ih => simp [ih, and_assoc]

section Lines
variable {names : List (List Char)} {longest i : Nat}

theorem IsLongest.foldl_eq (h : IsLongest names longest) :
    names.foldl (fun n s => max n s.length) 0 = longest := by
  refine Nat.le_antisymm ((foldl_max_le_iff names 0 longest).2 ⟨Nat.zero_le _, h.le⟩) ?_
  obtain ⟨name, hname, rfl⟩ := h.exists_eq
  exact ((foldl_max_le_iff names 0 _).1 le_rfl).2 name hname

theorem IsLongest.listLines_eq (h : IsLongest names longest) :
    listLines names = names.length ⌈/⌉ columnsFor longest := by
  rw [Nat.ceilDiv_eq_add_pred_div, listLines, h.foldl_eq]
  rfl

theorem IsLongest.listLine_eq (h : IsLongest names longest) (i : Nat) :
    listLine names i = namesLine longest (lineNames names i) ++ ['\n'] := by
  rw [listLine, h.foldl_eq, namesLine, lineNames, List.map_map]
  rfl

theorem lineNames_getElem? (hi : i < listLines names) (k : Nat) :
    (lineNames names i)[k]? = names[k * listLines names + i]? :=
  getElem?_filter_mod names hi (by rw [Nat.zero_add, Nat.mod_eq_of_lt hi]) k

theorem IsLongest.length_le (h : IsLongest names longest) :
    names.length ≤ columnsFor longest * listLines names := by
  rw [h.listLines_eq]
  exact le_smul_ceilDiv (columnsFor_pos longest)

theorem IsLongest.listLines_pos (h : IsLongest names longest) : 0 < listLines names := by
  obtain ⟨name, hname, -⟩ := h.exists_eq
  exact Nat.pos_of_mul_pos_left ((List.length_pos_of_mem hname).trans_le h.length_le)

theorem filledDown_lineNames {height : Nat} (hheight : listLines names = height) (hpos : 0 < height) :
    FilledDown names height ((List.range (listLines names)).map (lineNames names)) where
  length := by simp [hheight]
  place j name hj := by
    subst hheight
    have hmod : j % listLines names < listLines names := Nat.mod_lt _ hpos
    refine ⟨lineNames names (j % listLines names), by simp [hmod], ?_⟩
    rw [lineNames_getElem? hmod, Nat.div_add_mod', hj]
  only i k l name hline hname := by
    subst hheight
    obtain ⟨a, ha, rfl⟩ := by simpa using hline
    obtain ⟨hi, rfl⟩ : ∃ _ : i < listLines names, i = a := by
      simpa using List.getElem?_eq_some_iff.1 ha
    rw [lineNames_getElem? hi] at hname
    refine ⟨k * listLines names + i, hname, ?_, ?_⟩
    · rw [Nat.mul_add_mod_self_right, Nat.mod_eq_of_lt hi]
    · rw [Nat.add_comm, Nat.add_mul_div_right _ _ hpos, Nat.div_eq_of_lt hi, Nat.zero_add]

/-- There is a name on each line, and there are not more than columns. -/
theorem IsLongest.length_lineNames (h : IsLongest names longest) (hi : i < listLines names) :
    1 ≤ (lineNames names i).length ∧ (lineNames names i).length ≤ columnsFor longest := by
  constructor
  · have hpos := columnsFor_pos longest
    have hcount : listLines names ≤ names.length := by
      rw [h.listLines_eq, ceilDiv_le_iff_le_smul hpos]
      exact Nat.le_mul_of_pos_left _ hpos
    have hfirst := lineNames_getElem? hi 0
    rw [Nat.zero_mul, Nat.zero_add, List.getElem?_eq_getElem (hi.trans_le hcount)] at hfirst
    exact (List.getElem?_eq_some_iff.1 hfirst).1
  · have hbehind := h.length_le.trans (Nat.le_add_right _ i)
    exact List.getElem?_eq_none_iff.1
      ((lineNames_getElem? hi (columnsFor longest)).trans (List.getElem?_eq_none hbehind))

theorem length_namesLine {line : List (List Char)} (hline : ∀ name ∈ line, name.length ≤ longest) :
    (namesLine longest line).length = line.length * (longest + 2) - 2 := by
  have hcells : List.Forall₂ (fun cell w => cell.length = Int.natAbs w)
      (line.map (Text.padRight longest)) (line.map fun _ => (longest : Int)) := by
    rw [List.forall₂_map_left_iff, List.forall₂_map_right_iff, List.forall₂_same]
    intro name hname
    simpa using hline name hname
  rw [namesLine, (Layout.aligned_intercalate hcells).length]
  simp [Layout.offset]

theorem mem_of_mem_lineNames {name : List Char} (h : name ∈ lineNames names i) : name ∈ names := by
  obtain ⟨⟨name, j⟩, hmem, rfl⟩ := List.mem_map.1 h
  exact List.fst_mem_of_mem_zipIdx (List.mem_of_mem_filter hmem)

/-- Columns that are not too long fit, and where the longest name does not, it is alone. -/
theorem IsLongest.length_namesLine_le (h : IsLongest names longest) (hi : i < listLines names) :
    (longest ≤ 78 → (namesLine longest (lineNames names i)).length ≤ 78) ∧
    (78 < longest → (lineNames names i).length = 1) := by
  obtain ⟨hone, hmany⟩ := h.length_lineNames hi
  constructor
  · intro hfits
    have hcolumns : columnsFor longest = 80 / (longest + 2) :=
      Nat.max_eq_left ((Nat.le_div_iff_mul_le (by omega)).2 (by omega))
    have hwidth : (lineNames names i).length * (longest + 2) ≤ 80 :=
      (Nat.mul_le_mul_right _ (hcolumns ▸ hmany)).trans (Nat.div_mul_le_self 80 (longest + 2))
    rw [length_namesLine fun name hname => h.le name (mem_of_mem_lineNames hname)]
    omega
  · intro hlong
    have hcolumns : columnsFor longest = 1 := by
      rw [columnsFor, Nat.div_eq_of_lt (by omega)]
      rfl
    omega

end Lines

section Command
variable {session : Session} {s : Scene Console} {db : Connection}

/-- The query for the tables of databases with these names. -/
def namesQuery (databases : List String) : String :=
  String.ofList (tablesQuery (databases.map String.toList))

private theorem namesQuery_ne (databases : List String) :
    "PRAGMA database_list" ≠ namesQuery databases := by
  have hselect : (tablesQuery (databases.map String.toList)).head? = some 'S' := by
    unfold tablesQuery
    generalize hlead : ("SELECT name FROM sqlite_master WHERE type IN ('table','view') " ++
      "AND name NOT LIKE 'sqlite_%' AND name LIKE ?1").toList = lead
    have hhead : lead.head? = some 'S' := hlead ▸ by decide +kernel
    rw [List.append_assoc, List.head?_append, hhead, Option.some_or]
  intro h
  have hpragma : "PRAGMA database_list".toList.head? = some 'P' := by decide +kernel
  rw [h, namesQuery, String.toList_ofList, hselect] at hpragma
  exact absurd hpragma (by decide)

/-- What is no part of a script comes from what the session listens to. -/
private theorem listens_of_stems {p : Piece} {heard : List Engine.Answer} (haside : p.isAside)
    (h : p.Stems session heard) : session.Listens session.output := by
  cases p with
  | traced sql => exact .inl h.1
  | logged notice => exact .inr h.1
  | _ => cases haside

/-- The engine is asked twice, the second time by what it said before. All that is written meanwhile is
what the session listens to. -/
private theorem exists_gather_gather {α β : Type} {sql : String} {pick : List Value → Except RowFault α}
    {query : List α → String} {bindings : List Value}
    {pick' : List Value → Except RowFault β} {values : List β} {rest : List β → Act Console Unit}
    {Q : List Piece → Scene Console → Prop} (hready : Dump.Ready session s.world)
    (hfault : (s.world.script.answer sql).1.fault = none) (found : List α)
    (hrows : ((s.world.script.answer sql).1.rows.getD []).map pick = found.map Except.ok)
    (hne : sql ≠ query found) (hfault' : (s.world.script.answer (query found)).1.fault = none)
    (hrows' : ((s.world.script.answer (query found)).1.rows.getD []).map pick' = values.map Except.ok)
    (hrest : ∀ w asides, Dump.Records session s.world [sql, query found] asides w →
      (∀ p ∈ asides, p.isAside ∧ session.Listens session.output) →
      ∃ t, rest values ⟨w, s.own⟩ = (.ok (), t) ∧ Q asides t) :
    ∃ asides t, ((do
      let found ← Execute.gather session db sql [] pick
      let values ← Execute.gather session db (query found) bindings pick'
      rest values) : Act Console Unit) s = (.ok (), t) ∧ Q asides t := by
  obtain ⟨w, asides, hgather, hw, hasides⟩ :=
    (Dump.Records.refl hready).exists_gather db [] hrows hfault
  have hanswer : (w.script.answer (query found)).1 = (s.world.script.answer (query found)).1 := by
    rw [hw.script]
    exact Engine.Script.answer_answer_of_ne hne _
  rw [← hanswer] at hfault' hrows'
  obtain ⟨w', asides', hgather', hw', hasides'⟩ :=
    hw.exists_gather (s := ⟨w, s.own⟩) db bindings hrows' hfault'
  have hall : ∀ p ∈ asides ++ asides', p.isAside ∧ session.Listens session.output := fun p hp => by
    have haside := (List.mem_append.1 hp).elim (hasides p) (hasides' p)
    exact ⟨haside, listens_of_stems haside (hw'.stems p hp)⟩
  obtain ⟨t, hend, ht⟩ := hrest w' (asides ++ asides') hw' hall
  exact ⟨_, t, (Act.bind_ok hgather _).trans ((Act.bind_ok hgather' _).trans hend), ht⟩

/-- Where the engine lists names, these are written in columns, line by line. -/
theorem showTables_writes (hdb : (connection s).1 = .ok db)
    (hready : Dump.Ready s.own.session s.world) (pattern? : Option String)
    {listed : List (Value × String × Value)} {names : List String}
    (hfault : (s.world.script.answer "PRAGMA database_list").1.fault = none)
    (hrows : (s.world.script.answer "PRAGMA database_list").1.rows.getD [] =
      listed.map fun (seq, name, file) => [seq, .text name, file])
    (hfault' : (s.world.script.answer (namesQuery (listed.map (·.2.1)))).1.fault = none)
    (hnames : ((s.world.script.answer (namesQuery (listed.map (·.2.1)))).1.rows.getD []).map (·[0]?) =
      names.map fun name => some (.text name)) :
    ∃ (asides : List Piece) (t : Scene Console), showTables pattern? s = (.ok (), t) ∧
      (∀ p ∈ asides, p.isAside ∧ s.own.session.Listens s.own.session.output) ∧
      t.world.written s.own.session.output = s.world.written s.own.session.output ++
        asides.map (fun p => String.ofList p.text) ++
          (List.range (listLines (names.map String.toList))).map fun i =>
            String.ofList (listLine (names.map String.toList) i) := by
  obtain ⟨t, hconnection, ht⟩ := exists_connected hdb
  have hquery : namesQuery (listed.map (·.2.1)) =
      String.ofList (tablesQuery (listed.map fun d => d.2.1.toList)) := by
    rw [namesQuery, List.map_map]
    rfl
  rw [← ht.script] at hfault hrows hfault' hnames
  rw [showTables, Act.bind_ok hconnection, Act.bind_ok (show Act.own t = (.ok t.own, t) from rfl),
    ht.session, ← ht.written]
  refine exists_gather_gather (hready.of_target ht.target ht.taking) hfault
    (listed.map fun d => d.2.1.toList) ?_ (hquery ▸ namesQuery_ne _) (hquery ▸ hfault')
    (hquery ▸ Execute.map_valueAt hnames) fun w asides hw hasides => ?_
  · rw [hrows, List.map_map, List.map_map]
    rfl
  · obtain ⟨w', hwrites, -, hpast⟩ := Act.exists_forM_write (s := (⟨w, t.own⟩ : Scene Console))
      hw.ready.output (listLine (names.map String.toList)) (List.range (listLines (names.map String.toList)))
    refine ⟨⟨w', t.own⟩, ?_, hasides, ?_⟩
    · rw [Dump.mapM_text (g := String.toList)]
      · exact hwrites
      · exact fun _ => rfl
    · rw [World.written_of_texts hpast, hw.written]

/-- Tables are listed in columns that are filled downwards, as many as fit on a line and one at least, on
as few lines as these take: each name is in its place, padded to the longest, and in no other. No line is
without a name, and none is longer than 78 characters, unless a single name is. -/
theorem showTables_fills_columns (hdb : (connection s).1 = .ok db)
    (hready : Dump.Ready s.own.session s.world) (pattern? : Option String)
    (listed : List (Value × String × Value)) (names : List String)
    (hfault : (s.world.script.answer "PRAGMA database_list").1.fault = none)
    (hrows : (s.world.script.answer "PRAGMA database_list").1.rows.getD [] =
      listed.map fun (seq, name, file) => [seq, .text name, file])
    (hfault' : (s.world.script.answer (namesQuery (listed.map (·.2.1)))).1.fault = none)
    (hnames : ((s.world.script.answer (namesQuery (listed.map (·.2.1)))).1.rows.getD []).map (·[0]?) =
      names.map fun name => some (.text name)) (hne : names ≠ []) :
    ∃ (asides : List Piece) (t : Scene Console) (longest : Nat) (lines : List (List (List Char))),
      showTables pattern? s = (.ok (), t) ∧
      (∀ p ∈ asides, p.isAside ∧ s.own.session.Listens s.own.session.output) ∧
      t.world.written s.own.session.output = s.world.written s.own.session.output ++
        asides.map (fun p => String.ofList p.text) ++
          lines.map (fun line => String.ofList (namesLine longest line ++ ['\n'])) ∧
      IsLongest (names.map String.toList) longest ∧
      (let columns := max (80 / (longest + 2)) 1
       FilledDown (names.map String.toList) (names.length ⌈/⌉ columns) lines ∧
       ∀ line ∈ lines, 1 ≤ line.length ∧ line.length ≤ columns) ∧
      (∀ line ∈ lines, (longest ≤ 78 → (namesLine longest line).length ≤ 78) ∧
        (78 < longest → line.length = 1)) ∧
      ((∀ name ∈ names, '\n' ∉ name.toList) → ∀ line ∈ lines, '\n' ∉ namesLine longest line) := by
  obtain ⟨asides, t, hend, hasides, hwritten⟩ :=
    showTables_writes hdb hready pattern? hfault hrows hfault' hnames
  have hsome : names.map String.toList ≠ [] := by simpa using hne
  obtain ⟨longest, hlongest⟩ := exists_isLongest hsome
  have hfilled :=
    filledDown_lineNames hlongest.listLines_eq (hlongest.listLines_eq ▸ hlongest.listLines_pos)
  rw [List.length_map] at hfilled
  rw [funext hlongest.listLine_eq] at hwritten
  refine ⟨asides, t, longest, _, hend, hasides, by rwa [List.map_map], hlongest,
    ⟨hfilled, fun line h => ?_⟩, fun line h => ?_, fun hbreak line h => ?_⟩
  all_goals obtain ⟨i, hi, rfl⟩ : ∃ i < listLines (names.map String.toList),
    lineNames (names.map String.toList) i = line := by simpa using h
  · exact hlongest.length_lineNames hi
  · exact hlongest.length_namesLine_le hi
  · refine Layout.not_mem_intercalate fun cell hcell => ?_
    obtain ⟨name, hname, rfl⟩ := List.mem_map.1 hcell
    obtain ⟨text, htext, rfl⟩ := List.mem_map.1 (mem_of_mem_lineNames hname)
    simpa [Text.padRight] using hbreak text htext

end Command

/-- Names of which two go on a line, and one that is shorter. -/
def sampleNames : List String :=
  ["table_00_with_a_long_name", "table_01_with_a_long_name", "table_02_with_a_long_name", "temp.t", "v"]

/-- A script in which there are these tables. -/
def sampleTables : Engine.Script where
  answers :=
    [{ sql := "PRAGMA database_list", rows := some [[.integer 0, .text "main", .text ""]] },
      { sql := namesQuery ["main"], rows := some (sampleNames.map fun name => [.text name]) }]

theorem showTables_fills_columns_sample :
    let s : Scene Console := ⟨{ script := sampleTables }, {}⟩
    (connection s).1 = .ok { filename := ":memory:" } ∧ Dump.Ready {} s.world ∧ sampleNames ≠ [] ∧
    ∃ (t : Scene Console) (lines : List (List (List Char))),
      showTables none s = (.ok (), t) ∧
      t.world.written .stdout =
        lines.map (fun line => String.ofList (namesLine 25 line ++ ['\n'])) ∧
      FilledDown (sampleNames.map String.toList) 3 lines ∧
      ∀ line ∈ lines, 1 ≤ line.length ∧ line.length ≤ 2 ∧ '\n' ∉ namesLine 25 line := by
  intro s
  have hdb : (connection s).1 = .ok { filename := ":memory:" } := rfl
  have hready : Dump.Ready {} s.world := ⟨trivial, nofun, nofun⟩
  obtain ⟨asides, t, longest, lines, hend, hasides, hwritten, hlongest, ⟨hfilled, hsize⟩, -, hbreak⟩ :=
    showTables_fills_columns hdb hready none [(.integer 0, "main", .text "")] sampleNames
      (by decide +kernel) (by decide +kernel) (by decide +kernel) (by decide +kernel) (by decide)
  obtain rfl : longest = 25 := by
    have hmax := hlongest.foldl_eq
    rw [← hmax]
    decide +kernel
  have hnone : asides = [] := by
    refine List.eq_nil_iff_forall_not_mem.2 fun p hp => ?_
    rcases (hasides p hp).2 with h | h <;> cases h
  refine ⟨hdb, hready, by decide, t, lines, hend, ?_, hfilled, fun line hline => ?_⟩
  · rw [hnone] at hwritten
    exact hwritten
  · have hplain : ∀ name ∈ sampleNames, '\n' ∉ name.toList := by decide +kernel
    exact ⟨(hsize line hline).1, (hsize line hline).2, hbreak hplain line hline⟩

end SqlConsole.Console

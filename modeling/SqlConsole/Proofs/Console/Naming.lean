import SqlConsole.Console.Catalog
import SqlConsole.Proofs.Console.Connects
import SqlConsole.Proofs.Dump.Trail
import SqlConsole.Proofs.Sql.Token

/-! Queries that are made of the names of tables, columns and databases. Whatever characters are in a
name, each is one token of the query, and all others are always the same. -/
namespace SqlConsole
open Sql (Reads Token Value quoteIdentifier quoteString tokens?)

/-- The tokens of a text that is always the same. -/
def Sql.fixed (text : String) : List Token := (tokens? text.toList).getD []

example : Sql.fixed "name LIKE ?1" = [.word "name".toList, .word "LIKE".toList, .word "?1".toList] := by
  decide

/-- Rows that hold texts in a column. -/
theorem Execute.map_valueAt {i : Nat} {rows : List (List Value)} {texts : List String}
    (h : rows.map (·[i]?) = texts.map fun t => some (.text t)) :
    rows.map (Execute.valueAt i) = (texts.map Value.text).map Except.ok := by
  have hvalue : Execute.valueAt i = fun values : List Value =>
      values[i]?.elim (.error RowFault.missing) Except.ok := by
    funext values
    unfold Execute.valueAt
    cases values[i]? <;> rfl
  have hall := congrArg (List.map fun v? => v?.elim (.error RowFault.missing) Except.ok) h
  simpa only [hvalue, List.map_map, Function.comp_def, Option.elim_some] using hall

namespace Dump

/-- The tokens of the query for the content of a table. -/
def contentTokens (table : List Char) (columns : List (List Char)) : List Token :=
  [.word "SELECT".toList, .literal "INSERT INTO ".toList, .concat, .literal (quoteIdentifier table),
    .concat, .literal " VALUES(".toList, .concat] ++
  [.mark ','].intercalate (columns.map fun c => [.word "quote".toList, .mark '(', .name c, .mark ')']) ++
  [.concat, .literal [')'], .word "FROM".toList, .name table]

private theorem reads_call (c : List Char) :
    Reads ("quote(".toList ++ quoteIdentifier c ++ [')'])
      [.word "quote".toList, .mark '(', .name c, .mark ')'] := by
  have hopen : Reads "quote(".toList [.word "quote".toList, .mark '('] := by decide +kernel
  have hname : Reads (quoteIdentifier c ++ [')']) [.name c, .mark ')'] :=
    .enclose (.inr rfl) (by decide) c (by decide +kernel)
  rw [List.append_assoc]
  exact hopen.append hname

/-- The table's name is in the query twice: as a name, and in a literal as it has to be quoted in the
statements that the query makes. -/
theorem tokens?_contentText (table : List Char) (columns : List (List Char)) :
    tokens? (contentText table columns) = some (contentTokens table columns) := by
  have hselect : Reads "SELECT 'INSERT INTO ' || ".toList
      [.word "SELECT".toList, .literal "INSERT INTO ".toList, .concat] := by decide +kernel
  have htable : Reads (quoteString (quoteIdentifier table) ++ " || ' VALUES(' || ".toList)
      [.literal (quoteIdentifier table), .concat, .literal " VALUES(".toList, .concat] :=
    .enclose (.inl rfl) (by decide) _ (by decide +kernel)
  have hcalls : Reads
      ([',', ' '].intercalate (columns.map fun c => "quote(".toList ++ quoteIdentifier c ++ [')']))
      ([.mark ','].intercalate
        (columns.map fun c => [.word "quote".toList, .mark '(', .name c, .mark ')'])) :=
    .intercalate (by decide +kernel) fun c _ => reads_call c
  have hfrom : Reads " || ')' FROM  ".toList [.concat, .literal [')'], .word "FROM".toList] := by
    decide +kernel
  -- The name at the end has nothing behind it, so that it is read with the end of the text.
  have hinsert := hselect.append htable
  rw [← List.append_assoc] at hinsert
  have hall := Sql.tokens?_append ((hinsert.append hcalls).append hfrom)
    (Sql.tokens?_quoteIdentifier table)
  exact hall.trans (congrArg some (List.append_assoc _ _ _))

/-- The text that asks for the columns of a table. -/
def columnsQuery (table : String) : String :=
  String.ofList ("PRAGMA table_info(".toList ++ quoteIdentifier table.toList ++ [')', ';'])

/-- Where the engine tells the columns of a table, the query for its content is made of their names. -/
theorem contentQuery_text {session : Session} {s : Scene Tally} {table : String} {columns : List String}
    (db : Connection) (hready : Ready session s.world) (hcolumns : columns ≠ [])
    (hfault : (s.world.script.answer (columnsQuery table)).1.fault = none)
    (hrows : ((s.world.script.answer (columnsQuery table)).1.rows.getD []).map (·[1]?) =
      columns.map fun c => some (.text c)) :
    ∃ w, contentQuery session db table s =
      (.ok (some (String.ofList (contentText table.toList (columns.map String.toList)))), ⟨w, s.own⟩) := by
  have hpicked := Execute.map_valueAt hrows
  obtain ⟨w, asides, hgather, -⟩ := (Records.refl hready).exists_gather db [] hpicked hfault
  refine ⟨w, ?_⟩
  have hsome : (columns.map Value.text).isEmpty = false := by simpa using hcolumns
  rw [contentQuery]
  refine (Act.bind_ok hgather _).trans ?_
  simp only [hsome, mapM_textOf, Execute.require, Bool.false_eq_true, if_false, pure_bind]
  rfl

end Dump

namespace Console

/-- What is asked of each database: its tables and views. -/
def ofTables : String := "WHERE type IN ('table','view') AND name NOT LIKE 'sqlite_%' AND name LIKE ?1"

/-- The tokens of the query for the tables of one more database. -/
def attachedTokens (database : List Char) : List Token :=
  Sql.fixed "UNION ALL SELECT" ++ [.literal (database ++ ['.']), .concat] ++ Sql.fixed "name FROM" ++
    (if database = "temp".toList then [.word "sqlite_temp_master".toList]
      else [.name database, .mark '.', .word "sqlite_master".toList]) ++
    Sql.fixed ofTables

def tablesTokens (databases : List (List Char)) : List Token :=
  Sql.fixed "SELECT name FROM sqlite_master" ++ Sql.fixed ofTables ++
    (databases.filter fun d => !d.isEmpty && d != "main".toList).flatMap attachedTokens ++
    Sql.fixed "ORDER BY 1"

/-- The last word ends only where a blank follows, which the next text starts with. -/
private theorem reads_ofTables : Reads (ofTables.toList ++ [' ']) (Sql.fixed ofTables) := by
  decide +kernel

private theorem exists_attachedTables (d : List Char) :
    ∃ text, attachedTables d = ' ' :: text ∧ Reads (text ++ [' ']) (attachedTokens d) := by
  unfold attachedTables attachedTokens
  split
  · next h =>
    subst h
    have hunion : Reads "UNION ALL SELECT 'temp.' || name FROM sqlite_temp_master ".toList
        (Sql.fixed "UNION ALL SELECT" ++ [.literal ("temp".toList ++ ['.']), .concat] ++
          Sql.fixed "name FROM" ++ [.word "sqlite_temp_master".toList]) := by decide +kernel
    have hblank : " UNION ALL SELECT 'temp.' || name FROM sqlite_temp_master ".toList =
      ' ' :: "UNION ALL SELECT 'temp.' || name FROM sqlite_temp_master ".toList := by decide +kernel
    exact ⟨_, by rw [String.toList_append, hblank]; rfl, hunion.append_append reads_ofTables⟩
  · have hunion : Reads "UNION ALL SELECT ".toList (Sql.fixed "UNION ALL SELECT") := by decide +kernel
    have hliteral : Reads (quoteString (d ++ ['.']) ++ " || name FROM ".toList)
        (.literal (d ++ ['.']) :: .concat :: Sql.fixed "name FROM") :=
      .enclose (.inl rfl) (by decide) _ (by decide +kernel)
    have hname : Reads (quoteIdentifier d ++ ".sqlite_master ".toList)
        [.name d, .mark '.', .word "sqlite_master".toList] :=
      .enclose (.inr rfl) (by decide) _ (by decide +kernel)
    have hblank : " UNION ALL SELECT ".toList = ' ' :: "UNION ALL SELECT ".toList := by decide +kernel
    have hall := ((hunion.append hliteral).append hname).append_append reads_ofTables
    refine ⟨"UNION ALL SELECT ".toList ++ (quoteString (d ++ ['.']) ++ " || name FROM ".toList) ++
      (quoteIdentifier d ++ ".sqlite_master ".toList) ++ ofTables.toList, ?_, ?_⟩
    · rw [String.toList_append, hblank]
      simp only [ofTables, List.cons_append, List.append_assoc]
    · simpa only [List.append_assoc, List.cons_append, List.nil_append] using hall

/-- Texts that start with a blank, one behind the other. -/
private theorem reads_spaced {α : Type} {base : List Char} {ts : List Token} (text : α → List Char)
    (read : α → List Token) {l : List α} (hbase : Reads (base ++ [' ']) ts)
    (h : ∀ a ∈ l, ∃ t, text a = ' ' :: t ∧ Reads (t ++ [' ']) (read a)) :
    Reads (base ++ l.flatMap text ++ [' ']) (ts ++ l.flatMap read) := by
  -- The blank that starts a text ends what stands before it, so the base grows from the left.
  induction l generalizing base ts with
  | nil => simpa using hbase
  | cons a l ih =>
    obtain ⟨⟨t, htext, ht⟩, hl⟩ := List.forall_mem_cons.1 h
    have hnext : Reads (base ++ text a ++ [' ']) (ts ++ read a) := by
      simpa [htext] using hbase.append ht
    simpa using ih hnext hl

theorem tokens?_tablesQuery (databases : List (List Char)) :
    tokens? (tablesQuery databases) = some (tablesTokens databases) := by
  have hbase : ("SELECT name FROM sqlite_master WHERE type IN ('table','view') " ++
      "AND name NOT LIKE 'sqlite_%' AND name LIKE ?1").toList =
      "SELECT name FROM sqlite_master ".toList ++ ofTables.toList := by
    rw [← String.toList_append]
    rfl
  have hselect : Reads "SELECT name FROM sqlite_master ".toList
      (Sql.fixed "SELECT name FROM sqlite_master") := by decide +kernel
  have horder : tokens? "ORDER BY 1".toList = some (Sql.fixed "ORDER BY 1") := by decide +kernel
  have hblank : " ORDER BY 1".toList = ' ' :: "ORDER BY 1".toList := by decide
  have hspaced := reads_spaced attachedTables attachedTokens
    (l := databases.filter fun d => !d.isEmpty && d != "main".toList)
    (hselect.append_append reads_ofTables) fun d _ => exists_attachedTables d
  have hall := Sql.tokens?_append_blank hspaced hblank horder
  unfold tablesQuery tablesTokens
  rw [hbase]
  exact hall

/-- A token that the name of a database may be in. -/
private def mayName : Token → Bool
  | .literal s => s.getLast? == some '.'
  | .name _ => true
  | _ => false

private theorem count_eq_zero {t : Token} (ht : mayName t) {ts : List Token}
    (hts : ts.all fun u => !mayName u) : ts.count t = 0 := by
  refine List.count_eq_zero.2 fun hmem => ?_
  have hnot := List.all_eq_true.1 hts t hmem
  rw [ht] at hnot
  cases hnot

section Count
variable {d : List Char} {t : Token}

private theorem count_attachedTokens (ht : t = .literal (d ++ ['.']) ∨ t = .name d)
    (htemp : d ≠ "temp".toList) (e : List Char) :
    (attachedTokens e).count t = if e = d then 1 else 0 := by
  have hname : mayName t := by rcases ht with rfl | rfl <;> simp [mayName]
  have hunion : (Sql.fixed "UNION ALL SELECT").count t = 0 := count_eq_zero hname (by decide +kernel)
  have hfrom : (Sql.fixed "name FROM").count t = 0 := count_eq_zero hname (by decide +kernel)
  have hof : (Sql.fixed ofTables).count t = 0 := count_eq_zero hname (by decide +kernel)
  rw [attachedTokens]
  simp only [List.count_append, hunion, hfrom, hof]
  rcases ht with rfl | rfl
  · split <;> simp [List.count_cons]
  · split
    · next h =>
      subst h
      rw [if_neg (Ne.symm htemp)]
      simp
    · simp [List.count_cons]

/-- A database that is neither the main nor the temporary one is named as often as it is listed. -/
theorem count_tablesTokens (ht : t = .literal (d ++ ['.']) ∨ t = .name d) (hempty : d ≠ [])
    (hmain : d ≠ "main".toList) (htemp : d ≠ "temp".toList) (databases : List (List Char)) :
    (tablesTokens databases).count t = databases.count d := by
  have hname : mayName t := by rcases ht with rfl | rfl <;> simp [mayName]
  have hselect : (Sql.fixed "SELECT name FROM sqlite_master").count t = 0 :=
    count_eq_zero hname (by decide +kernel)
  have hof : (Sql.fixed ofTables).count t = 0 := count_eq_zero hname (by decide +kernel)
  have horder : (Sql.fixed "ORDER BY 1").count t = 0 := count_eq_zero hname (by decide +kernel)
  rw [tablesTokens]
  simp only [List.count_append, hselect, hof, horder, Nat.zero_add, Nat.add_zero]
  induction databases with
  | nil => rfl
  | cons e databases ih =>
    rw [List.count_cons, ← ih]
    rw [List.filter_cons]
    split
    · rw [List.flatMap_cons, List.count_append, count_attachedTokens ht htemp, Nat.add_comm]
      simp
    · next hleft =>
      have hne : e ≠ d := by
        rintro rfl
        rw [Bool.and_eq_true, bne_iff_ne] at hleft
        exact hleft ⟨by simpa using hempty, hmain⟩
      rw [if_neg (by simpa using hne), Nat.add_zero]

end Count

private theorem discreet_require {α : Type} (a : Except RowFault α) :
    (Execute.require a : Act Console α).Discreet := by
  cases a with
  | ok a => exact .pure a
  | error f => exact .fail _

/-- A text that is made of what the rows of another one hold. -/
private theorem given_gather_gather {α β : Type} {session : Session}
    {s : Scene Console} {db : Connection} {sql : String} {pick : List Value → Except RowFault α}
    {found : List α} {query : List α → String} {bindings : List Value}
    {pick' : List Value → Except RowFault β} {rest : List β → Act Console Unit}
    (hready : Dump.Ready session s.world)
    (hfault : (s.world.script.answer sql).1.fault = none)
    (hrows : ((s.world.script.answer sql).1.rows.getD []).map pick = found.map Except.ok)
    (hrest : ∀ values, (rest values).Discreet) :
    (((do
      let found ← Execute.gather session db sql [] pick
      let values ← Execute.gather session db (query found) bindings pick'
      rest values) : Act Console Unit) s).2.world.given = s.world.given ++ [sql, query found] := by
  obtain ⟨w, asides, hgather, hw, -⟩ := (Dump.Records.refl hready).exists_gather db [] hrows hfault
  rw [Act.bind_ok hgather]
  have hstance := Act.Discreet.stance_bind hrest
    (Execute.gather session db (query found) bindings pick') ⟨w, s.own⟩
  exact (congrArg Prod.fst hstance).trans (Dump.Records.given_gather (s := ⟨w, s.own⟩) hw db ..)

/-- Where the engine lists the databases, what it is given then is the query made of their names. -/
theorem showTables_given {s : Scene Console} {db : Connection} (hdb : (connection s).1 = .ok db)
    (hready : Dump.Ready s.own.session s.world) {listed : List (Value × String × Value)}
    (hfault : (s.world.script.answer "PRAGMA database_list").1.fault = none)
    (hrows : (s.world.script.answer "PRAGMA database_list").1.rows.getD [] =
      listed.map fun (seq, name, file) => [seq, .text name, file]) (pattern? : Option String) :
    (showTables pattern? s).2.world.given = s.world.given ++
      ["PRAGMA database_list", String.ofList (tablesQuery (listed.map fun d => d.2.1.toList))] := by
  obtain ⟨t, hconnection, ht⟩ := exists_connected hdb
  rw [← ht.script] at hfault hrows
  rw [showTables, Act.bind_ok hconnection, Act.bind_ok (show Act.own t = (.ok t.own, t) from rfl),
    ht.session, ← ht.given]
  refine given_gather_gather (hready.of_target ht.target ht.taking) hfault ?_ fun values => ?_
  · rw [hrows, List.map_map, List.map_map]
    rfl
  · exact .bind (discreet_require _) fun names => .forM (fun _ => .write _ _) _

/-- Whatever the names are, the queries for the content of a table and for the tables of all databases
have the tokens they should have, in which every name is found as it is: no character of it ends the
token or begins another. A database other than the main and the temporary one is named as often as it is
listed, before each of its tables and where these are read from. -/
theorem named_queries_tokens :
    (∀ table columns,
      tokens? (Dump.contentText table columns) = some (Dump.contentTokens table columns)) ∧
    (∀ databases,
      tokens? (tablesQuery databases) = some (tablesTokens databases) ∧
      ∀ d, d ≠ [] → d ≠ "main".toList → d ≠ "temp".toList →
        (tablesTokens databases).count (.literal (d ++ ['.'])) = databases.count d ∧
        (tablesTokens databases).count (.name d) = databases.count d) ∧
    (∀ session db (s : Scene Dump.Tally) table (columns : List String),
      Dump.Ready session s.world → columns ≠ [] →
      (s.world.script.answer (Dump.columnsQuery table)).1.fault = none →
      ((s.world.script.answer (Dump.columnsQuery table)).1.rows.getD []).map (·[1]?) =
        columns.map (fun c => some (.text c)) →
      ∃ w, Dump.contentQuery session db table s =
        (.ok (some (String.ofList (Dump.contentText table.toList (columns.map String.toList)))),
          ⟨w, s.own⟩)) ∧
    ∀ (s : Scene Console) db pattern? (listed : List (Value × String × Value)),
      (connection s).1 = .ok db → Dump.Ready s.own.session s.world →
      (s.world.script.answer "PRAGMA database_list").1.fault = none →
      (s.world.script.answer "PRAGMA database_list").1.rows.getD [] =
        listed.map (fun (seq, name, file) => [seq, .text name, file]) →
      (showTables pattern? s).2.world.given = s.world.given ++
        ["PRAGMA database_list", String.ofList (tablesQuery (listed.map fun d => d.2.1.toList))] :=
  ⟨Dump.tokens?_contentText,
    fun databases => ⟨tokens?_tablesQuery databases, fun _ hempty hmain htemp =>
      ⟨count_tablesTokens (.inl rfl) hempty hmain htemp databases,
        count_tablesTokens (.inr rfl) hempty hmain htemp databases⟩⟩,
    fun _ db _ _ _ hready hcolumns hfault hrows => Dump.contentQuery_text db hready hcolumns hfault hrows,
    fun _ _ pattern? _ hdb hready hfault hrows => showTables_given hdb hready hfault hrows pattern?⟩

/-- A script in which a table, its column and an attached database have awkward names. -/
def awkwardNames : Engine.Script where
  answers :=
    [{ sql := Dump.columnsQuery "a\"b", rows := some [[.integer 0, .text "c'\"d -- %s"]] },
      { sql := "PRAGMA database_list"
        rows := some [[.integer 0, .text "main", .text ""], [.integer 2, .text "it's /*", .text "f"]] }]

theorem named_queries_tokens_awkward :
    let table := "a\"b"
    let column := "c'\"d -- %s"
    let database := "it's /*"
    let databases := ["main".toList, database.toList]
    let s : Scene Dump.Tally := ⟨{ script := awkwardNames }, {}⟩
    let console : Scene Console := ⟨{ script := awkwardNames }, {}⟩
    (∃ query w, Dump.contentQuery {} { filename := ":memory:" } table s =
        (.ok (some query), ⟨w, s.own⟩) ∧
      tokens? query.toList = some (Dump.contentTokens table.toList [column.toList])) ∧
    ∃ query, (showTables none console).2.world.given = ["PRAGMA database_list", query] ∧
      tokens? query.toList = some (tablesTokens databases) ∧
      (tablesTokens databases).count (.literal (database.toList ++ ['.'])) = 1 ∧
      (tablesTokens databases).count (.name database.toList) = 1 := by
  intro table column database databases s console
  obtain ⟨hcontent, htables, hquery, hshown⟩ := named_queries_tokens
  obtain ⟨w, htext⟩ := hquery {} { filename := ":memory:" } s table [column] ⟨trivial, nofun, nofun⟩
    (by simp) (by decide +kernel) (by decide +kernel)
  have hgiven := hshown console { filename := ":memory:" } none
    [(.integer 0, "main", .text ""), (.integer 2, database, .text "f")] rfl
    ⟨trivial, nofun, nofun⟩ (by decide +kernel) (by decide +kernel)
  obtain ⟨hread, hcount⟩ := htables databases
  obtain ⟨hliteral, hname⟩ := hcount database.toList (by decide +kernel) (by decide +kernel)
    (by decide +kernel)
  have honce : databases.count database.toList = 1 := by decide +kernel
  refine ⟨⟨_, w, htext, ?_⟩, _, hgiven, ?_, ?_, hname.trans honce⟩
  · rw [String.toList_ofList]
    exact hcontent _ _
  · rw [String.toList_ofList]
    exact hread
  · exact hliteral.trans honce

end Console
end SqlConsole

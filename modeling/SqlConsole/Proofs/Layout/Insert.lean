import Mathlib.Data.List.Forall2
import SqlConsole.Console.Choices
import SqlConsole.Proofs.Layout.Rows
import SqlConsole.Proofs.Sql.Reading

/-! Rows that are written as statements to insert them: the statements are told apart again, and each
says the table and the values of its row. -/
namespace SqlConsole
open Sql (Literal Value literal? unquote?)
open Statement (Inert IsStatement isWordChar)

/-- What a statement inserts. -/
structure Insert where
  table : List Char
  values : List Literal
  deriving DecidableEq, Repr

namespace Sql

/-- The name of a table, which is a word or stands in quotes, and what follows it. -/
def tableName? : List Char → Option (List Char × List Char)
  | '\x27' :: r => unquote? '\x27' r
  | s =>
    let name := s.takeWhile isNameChar
    if name.head?.any isNameStart then some (name, s.dropWhile isNameChar) else none

/-- The values of a statement, from behind the opening parenthesis. -/
def valueList? : List Char → Option (List Literal × List Char)
  | ')' :: r => some ([], r)
  | s => literals? s.length s

theorem tableName?_quoteTableName (name r : List Char) :
    tableName? (quoteTableName name ++ ' ' :: r) = some (name, ' ' :: r) := by
  have hquoted : tableName? (quoteString name ++ ' ' :: r) = some (name, ' ' :: r) := by
    have htext : quoteString name ++ ' ' :: r =
        '\x27' :: (Text.double '\x27' name ++ '\x27' :: ' ' :: r) := by
      simp [quoteString, Text.enclose]
    rw [htext, tableName?, unquote?_double name (by simp)]
  unfold quoteTableName
  split
  · next c m =>
    split
    · next hplain =>
      obtain ⟨hstart, hname⟩ := Bool.and_eq_true_iff.1 hplain
      have hall : ∀ x ∈ c :: m, isNameChar x := List.all_eq_true.1 hname
      have hspace : (' ' :: r).takeWhile isNameChar = [] ∧
          (' ' :: r).dropWhile isNameChar = ' ' :: r := ⟨rfl, rfl⟩
      unfold tableName?
      split
      · next h =>
        obtain rfl := (List.cons.inj h).1
        exact absurd hstart (by decide)
      · dsimp only
        rw [List.takeWhile_append_of_pos hall, List.dropWhile_append_of_pos hall, hspace.1, hspace.2]
        simp [hstart]
    · exact hquoted
  · exact hquoted

private theorem literals?_close (n : Nat) (r : List Char) : literals? n (')' :: r) = none := by
  have hnone : literal? (')' :: r) = none := rfl
  cases n with
  | zero => rfl
  | succ n => rw [literals?, hnone]

private theorem literals?_intercalate {v : Value} {vs : List Value}
    (hvs : ∀ x ∈ v :: vs, x.IsFinite) {n : Nat} (hn : vs.length < n) (rest : List Char) :
    ∃ ls, literals? n ([','].intercalate ((v :: vs).map Value.literal) ++ ')' :: rest) =
        some (ls, rest) ∧ List.Forall₂ Literal.Denotes ls (v :: vs) := by
  induction vs generalizing v n with
  | nil =>
    obtain ⟨n, rfl⟩ := Nat.exists_eq_succ_of_ne_zero (Nat.ne_of_gt hn)
    have hfollows : Follows (')' :: rest) := ⟨')', rest, rfl, .inr rfl⟩
    obtain ⟨l, hl, hdenotes⟩ := literal?_literal (hvs v List.mem_cons_self) hfollows
    refine ⟨[l], ?_, .cons hdenotes .nil⟩
    rw [List.map_singleton, List.intercalate_singleton, literals?, hl]
    rfl
  | cons w vs ih =>
    obtain ⟨n, rfl⟩ := Nat.exists_eq_succ_of_ne_zero (Nat.ne_of_gt (Nat.zero_lt_of_lt hn))
    obtain ⟨hv, hws⟩ := List.forall_mem_cons.1 hvs
    obtain ⟨ls, hls, hall⟩ := ih hws (Nat.lt_of_succ_lt_succ hn)
    have hfollows : Follows
        (',' :: ([','].intercalate ((w :: vs).map Value.literal) ++ ')' :: rest)) :=
      ⟨',', _, rfl, .inl rfl⟩
    obtain ⟨l, hl, hdenotes⟩ := literal?_literal hv hfollows
    refine ⟨l :: ls, ?_, .cons hdenotes hall⟩
    have htext : [','].intercalate ((v :: w :: vs).map Value.literal) ++ ')' :: rest =
        v.literal ++ ',' :: ([','].intercalate ((w :: vs).map Value.literal) ++ ')' :: rest) := by
      simp [List.intercalate_cons_cons]
    rw [htext, literals?, hl]
    simp only [hls, Option.map_some]

private theorem length_le_intercalate (v : Value) (vs : List Value) :
    vs.length ≤ ([','].intercalate ((v :: vs).map Value.literal)).length := by
  induction vs generalizing v with
  | nil => simp
  | cons w vs ih =>
    have := ih w
    simp only [List.map_cons, List.intercalate_cons_cons, List.length_append, List.length_cons,
      List.length_nil] at this ⊢
    omega

theorem valueList?_intercalate {vs : List Value} (hvs : ∀ v ∈ vs, v.IsFinite) (rest : List Char) :
    ∃ ls, valueList? ([','].intercalate (vs.map Value.literal) ++ ')' :: rest) = some (ls, rest) ∧
      List.Forall₂ Literal.Denotes ls vs := by
  cases vs with
  | nil => exact ⟨[], rfl, .nil⟩
  | cons v vs =>
    have hlength := length_le_intercalate v vs
    generalize htext : [','].intercalate ((v :: vs).map Value.literal) ++ ')' :: rest = text
    have hn : vs.length < text.length := by
      rw [← htext, List.length_append, List.length_cons]
      omega
    obtain ⟨ls, hls, hall⟩ := literals?_intercalate hvs hn rest
    rw [htext] at hls
    refine ⟨ls, ?_, hall⟩
    unfold valueList?
    split
    · rw [literals?_close] at hls
      cases hls
    · exact hls

theorem not_mem_enclose {q x : Char} (hx : x ≠ q) {s : List Char} (hs : x ∉ s) :
    x ∉ Text.enclose q s := by
  have hdouble : x ∉ Text.double q s := by
    intro h
    obtain ⟨c, hc, hmem⟩ := List.mem_flatMap.1 h
    split at hmem
    · simp [hx] at hmem
    · exact hs (List.mem_singleton.1 hmem ▸ hc)
  simp [Text.enclose, hx, hdouble]

theorem inert_quoteTableName (name r : List Char) : Inert (quoteTableName name) (' ' :: r) := by
  unfold quoteTableName
  split
  · split
    · next hplain =>
      have hall := List.all_eq_true.1 (Bool.and_eq_true_iff.1 hplain).2
      refine .word (List.cons_ne_nil _ _) (fun x hx => ?_) (by simp [isWordChar])
      have hx := hall x hx
      simp only [isNameChar, Bool.or_eq_true] at hx
      rcases hx with hx | hx <;> simp [isWordChar, hx]
    · exact .enclose _ _
  · exact .enclose _ _

theorem inert_intercalate {vs : List Value} (hvs : ∀ v ∈ vs, v.IsFinite) (rest : List Char) :
    Inert ([','].intercalate (vs.map Value.literal)) (')' :: rest) := by
  induction vs with
  | nil => exact .nil _
  | cons v vs ih =>
    obtain ⟨hv, hvs⟩ := List.forall_mem_cons.1 hvs
    cases vs with
    | nil =>
      rw [List.map_singleton, List.intercalate_singleton]
      exact inert_literal hv ⟨')', rest, rfl, .inr rfl⟩
    | cons w vs =>
      rw [List.map_cons, List.map_cons, List.intercalate_cons_cons, List.append_assoc]
      exact (inert_literal hv ⟨',', _, rfl, .inl rfl⟩).append
        ((Inert.mark (by decide) _).append (ih hvs))

/-- The character zero only comes from the text of a value. -/
theorem not_mem_literal {v : Value} (hv : v.IsFinite)
    (htext : ∀ t, v = .text t → '\x00' ∉ t.toList) : '\x00' ∉ v.literal := by
  have hnumeral {s : List Char} (hs : IsNumeral s) : '\x00' ∉ s :=
    not_mem_of_isBare hs.isBare (by decide)
  cases v with
  | null => decide
  | integer n => exact hnumeral (isNumeral_integerText n)
  | real x =>
    obtain ⟨num, den, hx⟩ := hv
    exact hnumeral (isNumeral_text hx).1
  | text t => exact not_mem_enclose (by decide) (htext t rfl)
  | blob bytes =>
    rw [blob_literal]
    have hhex := not_mem_enclose (q := '\x27') (by decide)
      (not_mem_of_isBare (isBare_hex bytes) (x := '\x00') (by decide))
    simpa using hhex

theorem not_mem_intercalate {x : Char} (hx : x ≠ ',') {vs : List Value}
    (hvs : ∀ v ∈ vs, x ∉ v.literal) : x ∉ [','].intercalate (vs.map Value.literal) := by
  induction vs with
  | nil => exact List.not_mem_nil
  | cons v vs ih =>
    obtain ⟨hv, hvs⟩ := List.forall_mem_cons.1 hvs
    cases vs with
    | nil => simpa using hv
    | cons w vs =>
      have hrest := ih hvs
      simp only [List.map_cons, List.intercalate_cons_cons, List.mem_append, List.mem_singleton,
        not_or] at hrest ⊢
      exact ⟨⟨hv, hx⟩, hrest⟩

end Sql

namespace Insert

def read? (s : List Char) : Option Insert := do
  let (table, s) ← Sql.tableName? (← s.dropPrefix? "INSERT INTO ".toList)
  let (values, s) ← Sql.valueList? (← s.dropPrefix? " VALUES(".toList)
  if s = [';'] then some { table, values } else none

end Insert

namespace Layout

/-- The table that rows are inserted into: one that insert mode was chosen with, or the one that
stands in for it. -/
inductive Destination : Settings → String → Prop where
  | chosen {s : Settings} (name? : Option String) {c c' : Scene Console}
      (hchosen : Console.setMode "insert" name? c = (.ok (), c'))
      (htable : s.table = c'.own.session.settings.table) : Destination s (name?.getD "table")
  | unset {s : Settings} (htable : s.table = none) : Destination s "table"

/-- A row as a statement that inserts it. -/
def insertLine (name : List Char) (values : List Value) : List Char :=
  "INSERT INTO ".toList ++ (Sql.quoteTableName name ++ (" VALUES(".toList ++
    ([','].intercalate (values.map Value.literal) ++ [')', ';'])))

theorem Destination.insertTable_eq {s : Settings} {name : String} (h : Destination s name) :
    (insertTable s).toList = Sql.quoteTableName name.toList := by
  cases h with
  | @chosen name? c c' hchosen htable =>
    have hset : c'.own.session.settings.table =
        some (String.ofList (Sql.quoteTableName (name?.getD "table").toList)) := by
      have hc : (Console.setMode "insert" name? c).2 = c' := by rw [hchosen]
      rw [← hc]
      rfl
    have hne : Sql.quoteTableName (name?.getD "table").toList ≠ [] := by
      unfold Sql.quoteTableName
      split
      · next hname =>
        rw [hname]
        split <;> simp [Sql.quoteString, Text.enclose]
      · simp [Sql.quoteString, Text.enclose]
    have hempty : (String.ofList (Sql.quoteTableName (name?.getD "table").toList)).isEmpty = false := by
      simpa [String.isEmpty_iff, ← String.toList_eq_nil_iff] using hne
    simp only [insertTable, htable, hset, hempty, Bool.false_eq_true, if_false, String.toList_ofList]
  | unset htable =>
    have hplain : Sql.quoteTableName "table".toList = "table".toList := by decide
    rw [insertTable, htable, hplain]

theorem insertText_eq {s : Settings} {name : String} (h : Destination s name) {row : Row}
    (htyped : row.typed) : insertText s row = insertLine name.toList row.values ++ ['\n'] := by
  have hvalues : row.values.map (fun v => if row.typed then v.literal else v.untypedLiteral) =
      row.values.map Value.literal := by rw [htyped]; rfl
  have hend : ");\n".toList = [')', ';'] ++ ['\n'] := by decide
  unfold insertText insertLine
  dsimp only
  rw [hvalues, h.insertTable_eq, hend]
  generalize "INSERT INTO ".toList = a
  generalize " VALUES(".toList = b
  simp only [List.append_assoc]

private theorem dropPrefix?_append (p s : List Char) : (p ++ s).dropPrefix? p = some s :=
  List.dropPrefix?_eq_some_iff.2 ⟨p, rfl, by simp⟩

theorem read?_insertLine (name : List Char) {values : List Value} (hvs : ∀ v ∈ values, v.IsFinite) :
    ∃ ls, Insert.read? (insertLine name values) = some ⟨name, ls⟩ ∧
      List.Forall₂ Literal.Denotes ls values := by
  obtain ⟨ls, hls, hall⟩ := Sql.valueList?_intercalate hvs [';']
  have htable (r : List Char) : Sql.tableName? (Sql.quoteTableName name ++ (" VALUES(".toList ++ r)) =
      some (name, " VALUES(".toList ++ r) :=
    Sql.tableName?_quoteTableName name ("VALUES(".toList ++ r)
  refine ⟨ls, ?_, hall⟩
  unfold Insert.read? insertLine
  simp only [dropPrefix?_append, Option.bind_eq_bind, Option.bind_some, htable, hls, if_true]

theorem isStatement_insertLine (name : List Char) {values : List Value}
    (hvs : ∀ v ∈ values, v.IsFinite) : IsStatement (insertLine name values) := by
  have hmark {c : Char} (hc : c ∈ [' ', '(', ')', ',', '.', '+', '\n']) (r : List Char) :
      Inert [c] r := .mark hc r
  have hkeyword {w : List Char} (hw : w ≠ [] ∧ w.all isWordChar = true) {c : Char}
      (hc : c = ' ' ∨ c = '(') (r : List Char) : Inert ([' '] ++ (w ++ [c])) r := by
    have hend : ∀ x ∈ ([c] ++ r).head?, isWordChar x = false := by
      rcases hc with rfl | rfl <;> simp [isWordChar]
    refine (hmark (by decide) _).append (.append (.word hw.1 (List.all_eq_true.mp hw.2) hend) ?_)
    rcases hc with rfl | rfl <;> exact hmark (by decide) r
  have htext : insertLine name values = 'I' :: "NSERT".toList ++ ([' '] ++ ("INTO".toList ++ [' ']) ++
      (Sql.quoteTableName name ++ ([' '] ++ ("VALUES".toList ++ ['(']) ++
        ([','].intercalate (values.map Value.literal) ++ [')'])))) ++ [';'] := by
    have hlead : "INSERT INTO ".toList = 'I' :: "NSERT".toList ++ ([' '] ++ ("INTO".toList ++ [' '])) := by
      decide
    have hlist : " VALUES(".toList = [' '] ++ ("VALUES".toList ++ ['(']) := by decide
    unfold insertLine
    generalize "INSERT INTO ".toList = lead at hlead
    generalize " VALUES(".toList = list at hlist
    subst hlead hlist
    generalize "NSERT".toList = a
    generalize "INTO".toList = b
    generalize "VALUES".toList = c
    simp
  rw [htext]
  have hword : ∀ c ∈ 'I' :: "NSERT".toList, isWordChar c := List.all_eq_true.mp (by decide)
  refine Statement.isStatement_of_inert hword (by decide) (by simp [isWordChar]) fun rest => ?_
  exact (hkeyword (by decide) (by decide) _).append ((Sql.inert_quoteTableName name _).append
    ((hkeyword (by decide) (by decide) _).append
      ((Sql.inert_intercalate hvs (';' :: rest)).append (hmark (by decide) _))))

theorem not_mem_insertLine {name : List Char} (hname : '\x00' ∉ name) {values : List Value}
    (hvs : ∀ v ∈ values, v.IsFinite) (htexts : ∀ t, .text t ∈ values → '\x00' ∉ t.toList) :
    '\x00' ∉ insertLine name values := by
  have htable : '\x00' ∉ Sql.quoteTableName name := by
    unfold Sql.quoteTableName
    split
    · split
      · exact hname
      · exact Sql.not_mem_enclose (by decide) hname
    · exact Sql.not_mem_enclose (by decide) (by simp)
  have hvalues : '\x00' ∉ [','].intercalate (values.map Value.literal) :=
    Sql.not_mem_intercalate (by decide) fun v hv =>
      Sql.not_mem_literal (hvs v hv) fun t ht => htexts t (ht ▸ hv)
  unfold insertLine
  simp only [List.mem_append, not_or]
  exact ⟨by decide, htable, by decide, hvalues, by decide⟩

/-- Rows whose values have storage classes are written as one statement each, and the statements are
told apart again whatever their texts hold. Each of them says the name of the table that insert mode
was chosen with, and the values of its row one by one; the line end behind a statement goes to the
part of the next one. -/
theorem parts_writeRow (session : Session) (name : String) (rows : List Row) (s : Scene (List Int))
    (hopen : s.world.Accepts session.output) (hmode : session.settings.mode = .insert)
    (hname : Destination session.settings name)
    (hrows : ∀ row ∈ rows, row.typed ∧ ∀ v ∈ row.values, v.IsFinite)
    (hzero : '\x00' ∉ name.toList ∧ ∀ row ∈ rows, ∀ t, .text t ∈ row.values → '\x00' ∉ t.toList) :
    ∃ texts s', rows.forM (writeRow session) s = (.ok (), s') ∧
      s'.world.written session.output = s.world.written session.output ++ texts ∧
      Statement.isSettled (texts.flatMap String.toList) ∧
      ∃ statements, Statement.parts (texts.flatMap String.toList) =
          Statement.lineParts statements ∧
        List.Forall₂ (fun statement row => ∃ values,
          Insert.read? statement = some ⟨name.toList, values⟩ ∧
            List.Forall₂ Literal.Denotes values row.values) statements rows := by
  have htext : ∀ row ∈ rows, ∀ kept, rowText session.settings kept row =
      some (insertLine name.toList row.values ++ ['\n'], kept) := by
    intro row hrow kept
    rw [rowText, hmode]
    exact congrArg (fun t => some (t, kept)) (insertText_eq hname (hrows row hrow).1)
  obtain ⟨s', hwrite, hwritten⟩ := exists_writeRows htext hopen
  let lines := rows.map fun row => insertLine name.toList row.values
  have hflat : (rows.map fun row =>
      String.ofList (insertLine name.toList row.values ++ ['\n'])).flatMap String.toList =
        lines.flatMap (· ++ ['\n']) := by
    simp [lines, List.flatMap_map]
  have hfinite {row : Row} (hrow : row ∈ rows) : ∀ v ∈ row.values, v.IsFinite := (hrows row hrow).2
  refine ⟨_, s', hwrite, hwritten, ?_, lines, ?_, ?_⟩
  · have hjudged : '\x00' ∉ lines.flatMap (· ++ ['\n']) := by
      intro h
      obtain ⟨line, hline, hmem⟩ := List.mem_flatMap.1 h
      obtain ⟨row, hrow, rfl⟩ := List.mem_map.1 hline
      rcases List.mem_append.1 hmem with hmem | hmem
      · exact not_mem_insertLine hzero.1 (hfinite hrow) (hzero.2 row hrow) hmem
      · exact absurd (List.mem_singleton.1 hmem) (by decide)
    rw [hflat, Statement.isSettled, Statement.isJudged]
    simp [hjudged]
  · rw [hflat]
    refine Statement.parts_lines fun line hline => ?_
    obtain ⟨row, hrow, rfl⟩ := List.mem_map.1 hline
    exact isStatement_insertLine name.toList (hfinite hrow)
  · refine List.forall₂_map_left_iff.2 (List.forall₂_same.2 fun row hrow => ?_)
    exact read?_insertLine name.toList (hfinite hrow)

/-- A row with a quote, a semicolon and the marks of comments in its text. -/
def trickyRow : Row where
  columns := ["a", "b", "c"]
  values := [.text "it's; -- /*\n", .integer (-7), .blob [0, 255]]
  typed := true
  index := 0

theorem parts_writeRow_tricky :
    ∃ texts s', [trickyRow, trickyRow].forM
          (writeRow { settings := { mode := .insert, table := some "'a b'" } }) ⟨{}, []⟩ =
        (.ok (), s') ∧
      s'.world.written .stdout = texts ∧
      Statement.isSettled (texts.flatMap String.toList) ∧
      ∃ statements, Statement.parts (texts.flatMap String.toList) =
          Statement.lineParts statements ∧
        List.Forall₂ (fun statement row => ∃ values,
          Insert.read? statement = some ⟨"a b".toList, values⟩ ∧
            List.Forall₂ Literal.Denotes values row.values) statements [trickyRow, trickyRow] := by
  have hname : Destination { mode := .insert, table := some "'a b'" } "a b" := by
    refine .chosen (some "a b") (c := ⟨{}, {}⟩) rfl ?_
    decide
  obtain ⟨texts, s', hwrite, hwritten, hread⟩ := parts_writeRow
    { settings := { mode := .insert, table := some "'a b'" } } "a b" [trickyRow, trickyRow] ⟨{}, []⟩
    trivial rfl hname (by simp [trickyRow, Value.IsFinite]) (by simp [trickyRow])
  exact ⟨texts, s', hwrite, hwritten, hread⟩

/-- The engine judges no text with the character zero in it: where the statement for such a row ends
cannot be told. -/
theorem writeRow_zero_unsettled :
    let row : Row := { columns := ["a"], values := [.text "\x00"], typed := true, index := 0 }
    let result := [row].forM (writeRow { settings := { mode := .insert } }) ⟨{}, []⟩
    result.1.toOption = some () ∧
      result.2.world.written .stdout = ["INSERT INTO table VALUES('\x00');\n"] ∧
      Statement.isSettled ((result.2.world.written .stdout).flatMap String.toList) = false := by
  decide +kernel

end Layout
end SqlConsole

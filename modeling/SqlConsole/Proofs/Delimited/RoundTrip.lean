import SqlConsole.Layout.Columns
import SqlConsole.Proofs.Delimited.Quotes
import SqlConsole.Proofs.World.Discreet
import SqlConsole.Proofs.World.Sinks

/-! Rows written as delimited records, read back: each row is one record again, and each value one
field. -/
namespace SqlConsole

namespace Delimited

open Text (anyLines isLineEnd)

theorem dropLineEnd_concat {s : List Char} (hs : s.getLast? ≠ some '\r') :
    dropLineEnd (s ++ ['\n']) = s := by
  have hchomp : Text.chomp (s ++ ['\n']) = s := by simp [Text.chomp]
  rw [dropLineEnd, hchomp]
  split
  · next r hr =>
    rw [← List.head?_reverse, hr] at hs
    exact absurd rfl hs
  · rfl

namespace Gathering

theorem records_attach (g : Gathering) (c : Char) {ls : List (List Char)} (hls : ls ≠ []) :
    g.records (Text.attach c ls) = records ⟨g.lines, g.begun ++ [c]⟩ ls := by
  cases ls with
  | nil => exact absurd rfl hls
  | cons l ls => simp [Text.attach, records, add]

/-- A line that does not close the quotes ends no record. -/
theorem records_of_quoted {g : Gathering} {line : List Char} (hg : isBalanced g.begun = false)
    (hline : isBalanced line) (ls : List (List Char)) :
    g.records (line :: ls) = records ⟨g.lines + 1, g.begun ++ line⟩ ls := by
  have hadd : g.add line = (none, ⟨g.lines + 1, g.begun ++ line⟩) := by
    simp [add, isBalanced_append, hg, hline]
  rw [records, hadd]
  rfl

/-- A character that ends no line, or stands inside quotes, ends no record. -/
theorem records_char (g : Gathering) {c : Char} {r : List Char}
    (hc : isLineEnd c → isBalanced g.begun = false) (hr : r ≠ []) :
    ∃ n, g.records (anyLines (c :: r)) = records ⟨n, g.begun ++ [c]⟩ (anyLines r) := by
  by_cases hend : isLineEnd c
  · have hg := hc hend
    have hbalanced : isBalanced [c] := by
      rcases (Text.isLineEnd_iff c).1 hend with rfl | rfl <;> rfl
    by_cases hlf : c = '\r' ∧ r.head? = some '\n'
    · obtain ⟨rfl, hhead⟩ := hlf
      obtain ⟨r, rfl⟩ := List.head?_eq_some_iff.1 hhead
      -- The LF after a CR may as well come as a line of its own: both lines are only gathered.
      have hnext : isBalanced (g.begun ++ ['\r']) = false := by
        rw [isBalanced_append, hg]
        rfl
      refine ⟨g.lines, ?_⟩
      rw [Text.anyLines_crlf, Text.anyLines_lineEnd rfl (by simp), records_of_quoted hg rfl,
        records_of_quoted hnext rfl]
      simp
    · refine ⟨g.lines + 1, ?_⟩
      rw [Text.anyLines_lineEnd hend (fun h hn => hlf ⟨h, hn⟩), records_of_quoted hg hbalanced]
  · refine ⟨g.lines, ?_⟩
    rw [Text.anyLines_of_not_lineEnd hend, records_attach g c (Text.anyLines_ne_nil hr)]

/-- Text that keeps its line ends inside quotes is gathered, and ends no record. -/
theorem records_sheltered (g : Gathering) {s r : List Char}
    (hs : Sheltered isLineEnd (!isBalanced g.begun) s) (hr : r ≠ []) :
    ∃ n, g.records (anyLines (s ++ r)) = records ⟨n, g.begun ++ s⟩ (anyLines r) := by
  induction s generalizing g with
  | nil => exact ⟨g.lines, by simp⟩
  | cons c s ih =>
    obtain ⟨n, hchar⟩ := g.records_char (c := c) (r := s ++ r) (fun h => by simpa using hs.1 h)
      (by simp [hr])
    obtain ⟨m, hrest⟩ := ih ⟨n, g.begun ++ [c]⟩ (by rw [isBalanced_concat]; exact hs.2)
    exact ⟨m, by rw [List.cons_append, hchar, hrest, List.append_assoc, List.singleton_append]⟩

/-- Text with all quotes closed and its line ends inside them, and an LF behind it, is a record. -/
theorem records_line (n : Nat) {s : List Char} (hs : Sheltered isLineEnd false s)
    (hbalanced : isBalanced s) (r : List Char) :
    ∃ m, records ⟨n, []⟩ (anyLines (s ++ '\n' :: r)) = ⟨m, s⟩ :: records ⟨m, []⟩ (anyLines r) := by
  obtain ⟨m, h⟩ := records_sheltered ⟨n, []⟩ (r := '\n' :: r) hs (by simp)
  have hend : isBalanced (s ++ ['\n']) := by
    rw [isBalanced_append, hbalanced]
    rfl
  have hdrop : dropLineEnd (s ++ ['\n']) = s :=
    dropLineEnd_concat (hs.getLast?_ne hbalanced rfl (by decide))
  refine ⟨m + 1, ?_⟩
  rw [h, Text.anyLines_lineEnd rfl (by simp), records]
  simp [add, hend, hdrop]

theorem texts_records (n : Nat) (ss : List (List Char))
    (hss : ∀ s ∈ ss, Sheltered isLineEnd false s ∧ isBalanced s) :
    (records ⟨n, []⟩ (anyLines (ss.flatMap (· ++ ['\n'])))).map Record.text = ss := by
  induction ss generalizing n with
  | nil => rfl
  | cons s ss ih =>
    obtain ⟨hs, hbalanced⟩ := hss s List.mem_cons_self
    obtain ⟨m, hrecord⟩ := records_line n hs hbalanced (ss.flatMap (· ++ ['\n']))
    rw [List.flatMap_cons, List.append_assoc, List.singleton_append, hrecord, List.map_cons,
      ih m fun s hs => hss s (List.mem_cons_of_mem _ hs)]

end Gathering

/-- Text that keeps the separator's first character inside quotes is not cut. -/
theorem cutAt_sheltered {m : Char} (ms : List Char) {quoted : Bool} {s : List Char}
    (hs : Sheltered (· == m) quoted s) (r : List Char) :
    cutAt (m :: ms) 0 quoted (s ++ r) =
      s.foldr Text.attach (cutAt (m :: ms) 0 (quoted ^^ !isBalanced s) r) := by
  induction s generalizing quoted with
  | nil => simp [isBalanced]
  | cons c s ih =>
    rw [isBalanced_cons, List.foldr_cons, ← ih hs.2, List.cons_append, cutAt]
    by_cases hq : c = '"'
    · simp [hq]
    · have hcut : ¬ ((!quoted && (m :: ms).isPrefixOf (c :: (s ++ r))) = true) := by
        intro h
        simp only [Bool.and_eq_true, Bool.not_eq_true', List.isPrefixOf, beq_iff_eq] at h
        have := hs.1 (by simp [h.2.1])
        rw [h.1] at this
        cases this
      rw [if_neg hq, if_neg hcut, beq_eq_false_iff_ne.2 hq, Bool.xor_false]

theorem cutAt_joined {m : Char} (hm : m ≠ '"') {cells : List (List Char)} (hne : cells ≠ [])
    (hcells : ∀ s ∈ cells, Sheltered (· == m) false s ∧ isBalanced s) :
    cutAt [m] 0 false ([m].intercalate cells) = cells := by
  induction cells with
  | nil => exact absurd rfl hne
  | cons s cells ih =>
    obtain ⟨hs, hbalanced⟩ := hcells s List.mem_cons_self
    cases cells with
    | nil =>
      have hcut := cutAt_sheltered [] hs []
      rw [List.append_nil, cutAt, Text.foldr_attach_cons, List.append_nil] at hcut
      simpa using hcut
    | cons t cells =>
      have hrest := ih (by simp) fun s hs => hcells s (List.mem_cons_of_mem _ hs)
      have hsep : cutAt [m] 0 false (m :: [m].intercalate (t :: cells)) = [] :: t :: cells := by
        rw [cutAt, if_neg hm]
        simp [hrest]
      rw [List.intercalate_cons_cons, List.append_assoc, List.singleton_append, cutAt_sheltered [] hs,
        hbalanced]
      simp only [Bool.not_true, Bool.xor_false, hsep, Text.foldr_attach_cons, List.append_nil]

theorem unquoteRest_double (s : List Char) : unquoteRest (Text.double '"' s ++ ['"']) = s := by
  induction s with
  | nil => rfl
  | cons c s ih =>
    rw [Text.double_cons]
    by_cases hc : c = '"'
    · rw [if_pos hc]
      simp [unquoteRest, ih, hc]
    · rw [if_neg hc]
      simp [unquoteRest, ih, hc]

theorem unquote_field (separator s : List Char) : unquote (field separator s) = s := by
  cases h : needsQuote separator s with
  | true =>
    rw [field, if_pos h]
    exact unquoteRest_double s
  | false =>
    rw [field, h, if_neg (by simp)]
    cases s with
    | nil => rfl
    | cons c r =>
      have hc := not_quote_of_not_needsQuote h c List.mem_cons_self
      simp [unquote, hc]

/-- The fields of a record of which each was written by itself. -/
theorem fields_joined {m : Char} (hm : m ≠ '"') {ts : List (List Char)} (hne : ts ≠ []) :
    fields [m] ([m].intercalate (ts.map (field [m]))) = ts := by
  rw [fields, cutAt_joined hm (by simp [hne]), List.map_map]
  · refine List.map_id'' (fun t => ?_) ts
    exact unquote_field [m] t
  · intro s hs
    obtain ⟨t, -, rfl⟩ := List.mem_map.1 hs
    exact ⟨(sheltered_field hm t).2, isBalanced_field m t⟩

/-- Fields with separators between them keep their line ends inside quotes, and close all quotes. -/
theorem sheltered_joined {m : Char} (hm : m ≠ '"') (hend : isLineEnd m = false)
    (ts : List (List Char)) :
    Sheltered isLineEnd false ([m].intercalate (ts.map (field [m]))) ∧
      isBalanced ([m].intercalate (ts.map (field [m]))) := by
  induction ts with
  | nil => exact ⟨trivial, rfl⟩
  | cons t ts ih =>
    have hfield := (sheltered_field hm t).1
    have hbalanced := isBalanced_field m t
    cases ts with
    | nil => simpa using ⟨hfield, hbalanced⟩
    | cons u ts =>
      have hmark : isBalanced [m] := isBalanced_of_forall (by simpa using hm)
      rw [List.map_cons, List.map_cons, List.intercalate_cons_cons, List.append_assoc]
      refine ⟨hfield.append_of_balanced hbalanced (.append_of_balanced ?_ hmark ih.1), ?_⟩
      · exact .of_forall (by simpa using hend)
      · rw [isBalanced_append, isBalanced_append, hbalanced, hmark, ← List.map_cons, ih.2]
        rfl

/-- A record, as it is written from its fields. -/
def recordLine (m : Char) (ts : List (List Char)) : List Char :=
  [m].intercalate (ts.map (field [m])) ++ ['\n']

theorem fields_records {m : Char} (hm : m ≠ '"') (hend : isLineEnd m = false)
    (rows : List (List (List Char))) (hne : ∀ ts ∈ rows, ts ≠ []) :
    (records (rows.flatMap (recordLine m))).map (fun r => fields [m] r.text) = rows := by
  have htexts := Gathering.texts_records 0 (rows.map fun ts => [m].intercalate (ts.map (field [m])))
    (by
      intro s hs
      obtain ⟨ts, -, rfl⟩ := List.mem_map.1 hs
      exact sheltered_joined hm hend ts)
  rw [List.flatMap_map] at htexts
  calc
    _ = ((records (rows.flatMap (recordLine m))).map Record.text).map (fields [m]) := by
      rw [List.map_map]; rfl
    _ = (rows.map fun ts => [m].intercalate (ts.map (field [m]))).map (fields [m]) :=
      congrArg _ htexts
    _ = rows.map id := by
      rw [List.map_map]
      exact List.map_congr_left fun ts hts => fields_joined hm (hne ts hts)
    _ = rows := List.map_id rows

end Delimited

namespace Layout

open Delimited (recordLine)

/-- A row without NULL is written as one record. -/
theorem csvText_eq {settings : Settings} {m : Char} (hheader : settings.header = false)
    (hsep : settings.separator.toList = [m]) {row : Row} {ts : List (List Char)}
    (hts : row.values.map Sql.Value.text? = ts.map some) :
    csvText settings row = recordLine m ts := by
  have hcells : row.values.map (csvField settings) = ts.map (Delimited.field [m]) := by
    have hfield : csvField settings =
        fun v => (v.text?.map (Delimited.field [m])).getD settings.nullvalue.toList := by
      funext v
      cases h : v.text? <;> simp [csvField, h, hsep]
    calc
      _ = (row.values.map Sql.Value.text?).map fun t =>
          (t.map (Delimited.field [m])).getD settings.nullvalue.toList := by
        rw [List.map_map, hfield]; rfl
      _ = ts.map (Delimited.field [m]) := by rw [hts, List.map_map]; rfl
  simp [csvText, headed, Row.isHeaded, hheader, joined, hsep, hcells, recordLine]

theorem writeRow_csv {session : Session} {m : Char} {s : Scene (List Int)}
    (hopen : s.world.Accepts session.output) (hmode : session.settings.mode = .csv)
    (hheader : session.settings.header = false) (hsep : session.settings.separator.toList = [m])
    {row : Row} {ts : List (List Char)} (hts : row.values.map Sql.Value.text? = ts.map some) :
    ∃ s', writeRow session row s = (.ok (), s') ∧ s'.world.Accepts session.output ∧
      s'.world.written session.output =
        s.world.written session.output ++ [String.ofList (recordLine m ts)] := by
  obtain ⟨w, hwrite, hstays, hpast⟩ := Act.exists_write hopen (recordLine m ts)
  refine ⟨⟨w, s.own⟩, ?_, (hstays.accepts_iff _).2 hopen, ?_⟩
  · have htext : rowText session.settings s.own row = some (recordLine m ts, s.own) := by
      rw [rowText, hmode, csvText_eq hheader hsep hts]
    simp only [writeRow, Act.bind_apply, Act.own, htext, Act.modifyOwn]
    exact hwrite
  · rw [World.written_of_past hpast]
    simp [Deed.textTo?]

private theorem rows_written {session : Session} {m : Char}
    (hmode : session.settings.mode = .csv) (hheader : session.settings.header = false)
    (hsep : session.settings.separator.toList = [m]) {rows : List Row}
    {tss : List (List (List Char))}
    (htss : rows.map (fun row => row.values.map Sql.Value.text?) = tss.map (List.map some))
    {s : Scene (List Int)} (hopen : s.world.Accepts session.output) :
    ∃ s', rows.forM (writeRow session) s = (.ok (), s') ∧
      s'.world.written session.output =
        s.world.written session.output ++ tss.map (fun ts => String.ofList (recordLine m ts)) := by
  induction rows generalizing tss s with
  | nil =>
    obtain rfl : tss = [] := by simpa using htss.symm
    exact ⟨s, rfl, by simp⟩
  | cons row rows ih =>
    cases tss with
    | nil => simp at htss
    | cons ts tss =>
      obtain ⟨hrow, hrows⟩ := List.cons.inj htss
      obtain ⟨s₁, hwrite, hopen₁, hwritten₁⟩ := writeRow_csv hopen hmode hheader hsep hrow
      obtain ⟨s₂, hrest, hwritten₂⟩ := ih hrows hopen₁
      refine ⟨s₂, (Act.bind_ok hwrite _).trans hrest, ?_⟩
      rw [hwritten₂, hwritten₁, List.append_assoc, List.map_cons, List.singleton_append]

/-- What rows without NULL are written as, one value at least in each, reads back: the records of
the text are the rows, and the fields of a record are the texts of the values. -/
theorem records_writeRow (session : Session) (m : Char) (rows : List Row) (s : Scene (List Int))
    (hopen : s.world.Accepts session.output) (hmode : session.settings.mode = .csv)
    (hheader : session.settings.header = false) (hsep : session.settings.separator.toList = [m])
    (hm : m ≠ '"' ∧ m ≠ '\n' ∧ m ≠ '\r')
    (hrows : ∀ row ∈ rows, row.values ≠ [] ∧ ∀ v ∈ row.values, v ≠ .null) :
    ∃ texts s', rows.forM (writeRow session) s = (.ok (), s') ∧
      s'.world.written session.output = s.world.written session.output ++ texts ∧
      (Delimited.records (texts.flatMap String.toList)).map
          (fun r => (Delimited.fields [m] r.text).map some) =
        rows.map fun row => row.values.map Sql.Value.text? := by
  let tss := rows.map fun row => row.values.map fun v => v.text?.getD []
  have htss : rows.map (fun row => row.values.map Sql.Value.text?) = tss.map (List.map some) := by
    rw [List.map_map]
    refine List.map_congr_left fun row hrow => ?_
    rw [Function.comp_apply, List.map_map]
    refine List.map_congr_left fun v hv => ?_
    cases v with
    | null => exact absurd rfl ((hrows row hrow).2 _ hv)
    | _ => rfl
  obtain ⟨s', hwrite, hwritten⟩ := rows_written hmode hheader hsep htss hopen
  refine ⟨_, s', hwrite, hwritten, ?_⟩
  have hend : Text.isLineEnd m = false := by simp [Text.isLineEnd, hm.2]
  have hfields := Delimited.fields_records hm.1 hend tss (by
    intro ts hts
    obtain ⟨row, hrow, rfl⟩ := List.mem_map.1 hts
    simpa using (hrows row hrow).1)
  rw [htss, List.flatMap_map]
  simp only [String.toList_ofList]
  have hsome := congrArg (List.map (List.map some)) hfields
  rwa [List.map_map] at hsome

/-- A row whose values hold the separator, a quote and a line end. -/
def quotedRow : Row where
  columns := ["a", "b"]
  values := [.text "x,\"y", .text "\r\n"]
  typed := true
  index := 0

theorem records_writeRow_quoted :
    ∃ texts s', [quotedRow].forM (writeRow { settings := { mode := .csv, separator := "," } })
          ⟨{}, []⟩ = (.ok (), s') ∧
      s'.world.written .stdout = texts ∧
      (Delimited.records (texts.flatMap String.toList)).map
          (fun r => (Delimited.fields [','] r.text).map some) =
        [[some "x,\"y".toList, some "\r\n".toList]] := by
  obtain ⟨texts, s', hwrite, hwritten, hread⟩ := records_writeRow
    { settings := { mode := .csv, separator := "," } } ',' [quotedRow] ⟨{}, []⟩ trivial rfl rfl rfl
    (by decide) (by simp [quotedRow])
  exact ⟨texts, s', hwrite, hwritten, hread⟩

end Layout
end SqlConsole

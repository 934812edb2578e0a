import SqlConsole.Proofs.Layout.Columns

/-! Rows in columns that grow: a text that is longer than its column is written in full, and the column
stays as wide as that for the rows below. -/
namespace SqlConsole.Layout

section Grown
variable {w : Int} {text : List Char}

theorem natAbs_grown (w : Int) (text : List Char) :
    (grown w text).natAbs = max w.natAbs text.length := by
  unfold grown
  split
  · split <;> omega
  · omega

theorem length_le_grown (w : Int) (text : List Char) : text.length ≤ (grown w text).natAbs := by
  rw [natAbs_grown]
  exact Nat.le_max_right ..

/-- The text stays on its side. -/
theorem sign_grown (hw : w ≠ 0) (text : List Char) : (grown w text).sign = w.sign := by
  unfold grown
  split
  · next hlonger =>
    have hlength : (0 : Int) < text.length := by omega
    split
    · next hright =>
      rw [Int.sign_eq_one_of_pos hlength, Int.sign_eq_one_of_pos (by omega)]
    · next hleft =>
      rw [Int.sign_eq_neg_one_of_neg (by omega), Int.sign_eq_neg_one_of_neg (by omega)]
  · rfl

theorem cell_of_length_le (h : text.length ≤ w.natAbs) : Text.cell w text = Text.pad w text := by
  rw [Text.cell, List.take_of_length_le h]

end Grown

/-- The length of the longest text that these rows have in a column. -/
def widest (i : Nat) (rows : List (List (List Char))) : Nat :=
  rows.foldl (fun n texts => max n ((texts[i]?).getD []).length) 0

@[simp] theorem widest_nil (i : Nat) : widest i [] = 0 := rfl

@[simp] theorem widest_concat (i : Nat) (rows : List (List (List Char))) (texts : List (List Char)) :
    widest i (rows ++ [texts]) = max (widest i rows) ((texts[i]?).getD []).length := by
  simp [widest]

/-- The widths kept after some rows: each as wide as at the start and as the longest text of its column,
and on the same side. -/
structure Widened (start : List Int) (rows : List (List (List Char))) (kept : List Int) : Prop where
  length : kept.length = start.length
  width : ∀ i w, start[i]? = some w →
    ∃ w', kept[i]? = some w' ∧ w'.natAbs = max w.natAbs (widest i rows) ∧ w'.sign = w.sign

theorem widened_getElem? (kept : List Int) (texts : List (List Char)) (i : Nat) :
    (widened true kept texts)[i]? =
      kept[i]?.map fun w => ((texts[i]?).map (grown w)).getD w := by
  rw [widened, if_pos rfl, List.getElem?_map, List.getElem?_zipIdx]
  cases kept[i]? with
  | none => rfl
  | some w =>
    simp only [Option.map_some, Nat.zero_add]
    cases texts[i]? <;> rfl

section Widened
variable {start kept : List Int} {rows : List (List (List Char))}

theorem Widened.refl (start : List Int) : Widened start [] start :=
  ⟨rfl, fun _ w hw => ⟨w, hw, by simp, rfl⟩⟩

theorem Widened.concat (h : Widened start rows kept) (hstart : ∀ w ∈ start, w ≠ 0)
    (texts : List (List Char)) : Widened start (rows ++ [texts]) (widened true kept texts) := by
  refine ⟨by simp [widened, h.length], fun i w hw => ?_⟩
  obtain ⟨w', hkept, habs, hsign⟩ := h.width i w hw
  have hw' : w' ≠ 0 := by
    rintro rfl
    exact hstart w (List.mem_of_getElem? hw) (Int.sign_eq_zero_iff_zero.1 hsign.symm)
  rw [widened_getElem?, hkept, Option.map_some, widest_concat, ← Nat.max_assoc, ← habs, ← hsign]
  cases texts[i]? with
  | none => exact ⟨w', rfl, by simp, rfl⟩
  | some text => exact ⟨grown w' text, rfl, natAbs_grown w' text, sign_grown hw' text⟩

end Widened

/-- The widths that the cells of a row take. -/
def usedWidths (kept : List Int) (texts : List (List Char)) : List Int :=
  texts.zipIdx.map fun (text, i) => grown (keptWidth kept i) text

/-- Each text is on the line in full, with the blanks beside it that its width leaves, and starts where the
widths before it say. -/
structure InFull (used : List Int) (texts : List (List Char)) (line : List Char) : Prop where
  fits : List.Forall₂ (fun w text => text.length ≤ Int.natAbs w) used texts
  line : Aligned used (List.zipWith beside used texts) line

section Line
variable {kept : List Int} {texts : List (List Char)}

theorem usedWidths_getElem? (kept : List Int) (texts : List (List Char)) (i : Nat) :
    (usedWidths kept texts)[i]? = texts[i]?.map (grown (keptWidth kept i)) := by
  rw [usedWidths, List.getElem?_map, List.getElem?_zipIdx]
  cases texts[i]? <;> simp

/-- What a cell takes, its column keeps. -/
theorem widened_of_used {i : Nat} {u w : Int} (hu : (usedWidths kept texts)[i]? = some u)
    (hw : (widened true kept texts)[i]? = some w) : u = w := by
  rw [usedWidths_getElem?] at hu
  rw [widened_getElem?] at hw
  obtain ⟨text, htext, rfl⟩ := Option.map_eq_some_iff.1 hu
  obtain ⟨w', hkept, rfl⟩ := Option.map_eq_some_iff.1 hw
  simp [htext, keptWidth, hkept]

theorem forall₂_usedWidths (kept : List Int) (texts : List (List Char)) :
    List.Forall₂ (fun w text => text.length ≤ Int.natAbs w) (usedWidths kept texts) texts := by
  refine List.forall₂_iff_get.2 ⟨by simp [usedWidths], fun i hi hi' => ?_⟩
  simpa [usedWidths] using length_le_grown _ _

theorem cells_grow (kept : List Int) (texts : List (List Char)) :
    cells true kept texts = List.zipWith beside (usedWidths kept texts) texts := by
  apply List.ext_getElem
  · simp [cells, usedWidths]
  · intro i hi hi'
    simp [cells, usedWidths, cell_of_length_le (length_le_grown _ _), pad_eq]

theorem inFull_cells (kept : List Int) (texts : List (List Char)) :
    InFull (usedWidths kept texts) texts ([' ', ' '].intercalate (cells true kept texts)) := by
  have hfits := forall₂_usedWidths kept texts
  refine ⟨hfits, ?_⟩
  rw [cells_grow]
  refine aligned_intercalate (List.forall₂_iff_get.2 ⟨by simp [usedWidths], fun i hi hi' => ?_⟩)
  have hi'' : i < texts.length := by simpa [usedWidths] using hi'
  simp only [List.get_eq_getElem, List.getElem_zipWith, length_beside]
  exact Nat.max_eq_left (hfits.get hi' hi'')

end Line

section Rows
variable {session : Session} {first row : Row} {settled kept : List Int}

private theorem mem_of_mapM_eq_some {α β : Type} {f : α → Option β} {l : List α} {l' : List β}
    (h : l.mapM f = some l') {b : β} (hb : b ∈ l') : ∃ a ∈ l, f a = some b := by
  induction l generalizing l' with
  | nil =>
    obtain rfl : l' = [] := by simpa using h.symm
    cases hb
  | cons a l ih =>
    rw [List.mapM_cons] at h
    obtain ⟨c, ha, h⟩ := Option.bind_eq_some_iff.1 h
    obtain ⟨cs, hl, h⟩ := Option.bind_eq_some_iff.1 h
    obtain rfl : c :: cs = l' := by simpa using h
    rcases List.mem_cons.1 hb with rfl | hb
    · exact ⟨a, List.mem_cons_self, ha⟩
    · obtain ⟨a', ha', hf⟩ := ih hl hb
      exact ⟨a', List.mem_cons_of_mem a ha', hf⟩

/-- No column starts without a width. -/
theorem ne_zero_of_startWidths {s : Settings} (h : startWidths s first = some settled) :
    ∀ w ∈ settled, w ≠ 0 := by
  intro w hw
  obtain ⟨⟨name, i⟩, -, hstart⟩ := mem_of_mapM_eq_some h hw
  simp only [startWidth] at hstart
  by_cases hchosen : s.width i ≠ 0
  · rw [if_pos hchosen] at hstart
    rwa [← Option.some.inj hstart]
  · rw [if_neg hchosen] at hstart
    obtain ⟨text, -, rfl⟩ := Option.map_eq_some_iff.1 hstart
    unfold defaultWidth
    omega

theorem rowText_explain_first {s : Settings} (hmode : s.mode = .explain) (hindex : row.index = 0)
    (hstart : startWidths s row = some settled) (kept : List Int) :
    rowText s kept row = some
      (headed s row (headerText row settled (settled.take maxColumns))
        (spaced (cells true (settled.take maxColumns) (row.texts s))),
        widened true (settled.take maxColumns) (row.texts s)) := by
  have hgrow : (Mode.explain == Mode.explain) = true := rfl
  simp only [rowText, hmode, columnText, hgrow, if_pos hindex, hstart, Option.map_some]

theorem rowText_explain_next {s : Settings} (hmode : s.mode = .explain) (hindex : row.index ≠ 0)
    (kept : List Int) :
    rowText s kept row =
      some (spaced (cells true kept (row.texts s)), widened true kept (row.texts s)) := by
  have hgrow : (Mode.explain == Mode.explain) = true := rfl
  simp only [rowText, hmode, columnText, hgrow, if_neg hindex]

/-- Where a column without a width chosen for it has no value in the first row, nothing is written. -/
theorem rows_missing {rest : List Row} (hmode : session.settings.mode = .explain)
    (hindex : first.index = 0) (hstart : startWidths session.settings first = none)
    (s : Scene (List Int)) :
    first.values.length < first.columns.length ∧
      (first :: rest).forM (writeRow session) s = (.error .missingValue, s) := by
  have htext : rowText session.settings s.own first = none := by
    simp only [rowText, hmode, columnText, if_pos hindex, hstart, Option.map_none]
  have hlacks : first.values.length < first.columns.length := by
    refine Nat.lt_of_not_le fun hvalues => ?_
    obtain ⟨text, widths, hsome⟩ := exists_rowText (s := session.settings) hvalues s.own
    rw [htext] at hsome
    cases hsome
  exact ⟨hlacks, Act.bind_error (writeRow_of_none htext) _⟩

/-- Rows below the first one are all written, and leave each column as wide as its longest text. -/
theorem exists_rows_widened {rows : List Row} {above : List (List (List Char))} {start : List Int}
    {s : Scene (List Int)} (hmode : session.settings.mode = .explain)
    (hrows : ∀ row ∈ rows, row.index ≠ 0) (hopen : s.world.Accepts session.output)
    (hstart : ∀ w ∈ start, w ≠ 0) (h : Widened start above s.own) :
    ∃ s', rows.forM (writeRow session) s = (.ok (), s') ∧ s'.world.Accepts session.output ∧
      Widened start (above ++ rows.map (·.texts session.settings)) s'.own := by
  induction rows generalizing above s with
  | nil => exact ⟨s, rfl, hopen, by simpa using h⟩
  | cons row rows ih =>
    obtain ⟨hrow, hrows⟩ := List.forall_mem_cons.1 hrows
    obtain ⟨w, hwrite, hopen', -⟩ := exists_writeRow hopen (rowText_explain_next hmode hrow s.own)
    obtain ⟨s', hrest, hopen'', hs'⟩ := ih (s := ⟨w, _⟩) hrows hopen' (h.concat hstart _)
    exact ⟨s', (Act.bind_ok hwrite _).trans hrest, hopen'', by simpa using hs'⟩

/-- How a row is written below others: its texts are in full on its line, and each column that widths
are kept for is then as wide as at the start and as its longest text so far, and no narrower than it was
above. -/
structure WritesInFull (session : Session) (settled : List Int) (above : List Row) (row : Row)
    (s s' : Scene (List Int)) : Prop where
  written : ∃ (used : List Int) (line : List Char), InFull used (row.texts session.settings) line ∧
    s'.world.written session.output = s.world.written session.output ++
      [String.ofList (headed session.settings row
        (headerText row settled (settled.take maxColumns)) (line ++ ['\n']))] ∧
    ∀ (i : Nat) (u w : Int), used[i]? = some u → s'.own[i]? = some w → u = w
  width : ∀ (i : Nat) (w : Int), i < maxColumns → settled[i]? = some w →
    ∃ w' : Int, s'.own[i]? = some w' ∧
      w'.natAbs = max w.natAbs (widest i ((above ++ [row]).map (·.texts session.settings))) ∧
      w'.sign = w.sign ∧
      (above ≠ [] → ∃ w₀ : Int, s.own[i]? = some w₀ ∧ w₀.natAbs ≤ w'.natAbs)

private theorem exists_writesInFull (above : List Row) {s : Scene (List Int)}
    (hopen : s.world.Accepts session.output) (hsettled : ∀ w ∈ settled, w ≠ 0)
    (hkept : Widened (settled.take maxColumns) (above.map (·.texts session.settings)) kept)
    (habove : above ≠ [] → s.own = kept)
    (htext : rowText session.settings s.own row = some
      (headed session.settings row (headerText row settled (settled.take maxColumns))
        (spaced (cells true kept (row.texts session.settings))),
        widened true kept (row.texts session.settings))) :
    ∃ s', writeRow session row s = (.ok (), s') ∧ WritesInFull session settled above row s s' := by
  obtain ⟨w, hwrite, -, hwritten⟩ := exists_writeRow hopen htext
  refine ⟨_, hwrite, ⟨_, _, inFull_cells kept _, hwritten, fun i u w hu hw => widened_of_used hu hw⟩, ?_⟩
  intro i w hi hw
  have hstart : (settled.take maxColumns)[i]? = some w := by rw [List.getElem?_take_of_lt hi, hw]
  have hnext := hkept.concat (fun w hw => hsettled w (List.mem_of_mem_take hw))
    (row.texts session.settings)
  obtain ⟨w', hw', habs, hsign⟩ := hnext.width i w hstart
  refine ⟨w', hw', by rw [habs, List.map_append, List.map_singleton], hsign, fun hne => ?_⟩
  obtain ⟨w₀, hw₀, habs₀, -⟩ := hkept.width i w hstart
  refine ⟨w₀, habove hne ▸ hw₀, ?_⟩
  rw [habs₀, habs, widest_concat]
  omega

/-- While plans are explained no text is cut: each row is written in full, and its columns grow with it
and never shrink below it. If a column without a width chosen for it has no value in the first row,
nothing is written. -/
theorem writeRows_explain (session : Session) (first : Row) (rest : List Row) (s : Scene (List Int))
    (hmode : session.settings.mode = .explain) (hopen : s.world.Accepts session.output)
    (hfirst : first.index = 0) (hrest : ∀ row ∈ rest, row.index ≠ 0) :
    (startWidths session.settings first = none → first.values.length < first.columns.length ∧
      (first :: rest).forM (writeRow session) s = (.error .missingValue, s)) ∧
    ∀ settled, startWidths session.settings first = some settled →
      ∀ above row below, first :: rest = above ++ row :: below →
        ∃ s₀ s₁, above.forM (writeRow session) s = (.ok (), s₀) ∧
          writeRow session row s₀ = (.ok (), s₁) ∧
          WritesInFull session settled above row s₀ s₁ := by
  refine ⟨fun hnone => rows_missing hmode hfirst hnone s, fun settled hsettled => ?_⟩
  have hne := ne_zero_of_startWidths hsettled
  have htake : ∀ w ∈ settled.take maxColumns, w ≠ 0 := fun w hw => hne w (List.mem_of_mem_take hw)
  have hfirst := rowText_explain_first hmode hfirst hsettled s.own
  intro above row below hrows
  cases above with
  | nil =>
    obtain ⟨rfl, -⟩ := List.cons.inj hrows
    obtain ⟨s₁, hwrite, hfull⟩ :=
      exists_writesInFull [] hopen hne (.refl _) (fun h => absurd rfl h) hfirst
    exact ⟨s, s₁, rfl, hwrite, hfull⟩
  | cons _ above =>
    obtain ⟨rfl, rfl⟩ := List.cons.inj hrows
    obtain ⟨w, hwrite, hopen', -⟩ := exists_writeRow hopen hfirst
    have hwidened := (Widened.refl (settled.take maxColumns)).concat htake
      (first.texts session.settings)
    obtain ⟨s₀, hrun, hopen₀, hs₀⟩ := exists_rows_widened (s := ⟨w, _⟩) hmode
      (fun row hrow => hrest row (List.mem_append_left _ hrow)) hopen' htake hwidened
    have hindex : row.index ≠ 0 := hrest row (by simp)
    have hbody : rowText session.settings s₀.own row = some
        (headed session.settings row (headerText row settled (settled.take maxColumns))
          (spaced (cells true s₀.own (row.texts session.settings))),
          widened true s₀.own (row.texts session.settings)) := by
      rw [rowText_explain_next hmode hindex, headed, Row.isHeaded]
      simp [hindex]
    obtain ⟨s₁, hlast, hfull⟩ := exists_writesInFull (first :: above) hopen₀ hne
      (by simpa using hs₀) (fun _ => rfl) hbody
    exact ⟨s₀, s₁, (Act.bind_ok hwrite _).trans hrun, hlast, hfull⟩

end Rows

/-- A row of two columns, with these texts. -/
def pairRow (index : Int) (a b : String) : Row where
  columns := ["addr", "p4"]
  values := [.text a, .text b]
  typed := true
  index

/-- The second row is longer in both columns, of which the second is set to the right. -/
theorem writeRows_explain_pair :
    let settings : Settings := { mode := .explain, widths := [4, -3] }
    startWidths settings (pairRow 0 "1" "x") = some [4, -3] ∧
    ∃ s₀ s₁, [pairRow 0 "1" "x"].forM (writeRow { settings }) ⟨{}, []⟩ = (.ok (), s₀) ∧
      writeRow { settings } (pairRow 1 "longer" "wide") s₀ = (.ok (), s₁) ∧
      WritesInFull { settings } [4, -3] [pairRow 0 "1" "x"] (pairRow 1 "longer" "wide") s₀ s₁ ∧
      s₁.own[1]? = some (-4) := by
  intro settings
  have hstart : startWidths settings (pairRow 0 "1" "x") = some [4, -3] := by decide
  obtain ⟨s₀, s₁, habove, hwrite, hfull⟩ :=
    (writeRows_explain { settings } (pairRow 0 "1" "x") [pairRow 1 "longer" "wide"] ⟨{}, []⟩ rfl trivial
      rfl (by simp [pairRow])).2 _ hstart [pairRow 0 "1" "x"] _ [] rfl
  refine ⟨hstart, s₀, s₁, habove, hwrite, hfull, ?_⟩
  obtain ⟨w', hw', habs, hsign, -⟩ := hfull.width 1 (-3) (by decide) rfl
  have hwidest : max (Int.natAbs (-3)) (widest 1 (([pairRow 0 "1" "x"] ++ [pairRow 1 "longer" "wide"]).map
      (·.texts settings))) = 4 := by decide
  rw [hwidest] at habs
  have hneg : w' < 0 := Int.sign_eq_neg_one_iff_neg.1 hsign
  obtain rfl : w' = -4 := by omega
  exact hw'

end SqlConsole.Layout

import Mathlib.Data.List.Forall2
import SqlConsole.Proofs.Layout.Rows
import SqlConsole.Proofs.Text.Escape

/-! Rows of C strings, read back cell by cell. -/
namespace SqlConsole.Layout

open Text (Writes endsUnpaired quoteC unescape utf8)

/-- The text up to the first double quote that has no unpaired backslash before it, and what follows
the quote. `read` has been read already. -/
def toQuote? (read : List Char) : List Char → Option (List Char × List Char)
  | [] => none
  | c :: r =>
    if c == '"' && !endsUnpaired read then some (read, r) else toQuote? (read ++ [c]) r

theorem length_lt_of_toQuote? {read s body r : List Char} (h : toQuote? read s = some (body, r)) :
    r.length < s.length := by
  induction s generalizing read with
  | nil => simp [toQuote?] at h
  | cons c s ih =>
    rw [toQuote?] at h
    split at h
    · obtain ⟨rfl, rfl⟩ : read = body ∧ s = r := by simpa using h
      simp
    · exact Nat.lt_succ_of_lt (ih h)

/-- What the text between the quotes of a C string says: the text of its bytes. -/
def quotedText (body : List Char) : List Char :=
  Text.decode ((unescape body).map fun c => UInt8.ofNat c.toNat)

def quotedCells? (sep line : List Char) : Option (List (List Char)) :=
  match line with
  | [] => none
  | c :: r =>
    if c == '"' then
      match _h : toQuote? [] r with
      | none => none
      | some (body, rest) =>
        if rest = ['\n'] then some [quotedText body]
        else if sep.isPrefixOf rest then
          (quotedCells? sep (rest.drop sep.length)).map (quotedText body :: ·)
        else none
    else none
termination_by line.length
decreasing_by
  have hlength := length_lt_of_toQuote? ‹toQuote? [] r = some (body, rest)›
  simp only [List.length_drop, List.length_cons]
  omega

/-- The cells of a line: each is quoted, and a separator is between one and the next. -/
def cells? (sep line : List Char) : Option (List (List Char)) :=
  if line = ['\n'] then some [] else quotedCells? sep line

section
variable {body s t : List Char}

private theorem toQuote?_append {p q : List Char}
    (hguarded : ∀ a b, q = a ++ '"' :: b → endsUnpaired (p ++ a))
    (hclosed : endsUnpaired (p ++ q) = false) (r : List Char) :
    toQuote? p (q ++ '"' :: r) = some (p ++ q, r) := by
  induction q generalizing p with
  | nil =>
    rw [List.append_nil] at hclosed
    simp [toQuote?, hclosed]
  | cons c q ih =>
    have hinside : (c == '"' && !endsUnpaired p) = false := by
      by_cases hc : c = '"'
      · have hp := hguarded [] q (by rw [hc, List.nil_append])
        rw [List.append_nil] at hp
        simp [hp]
      · simp [hc]
    have hnext := ih (p := p ++ [c])
      (fun a b h => by simpa using hguarded (c :: a) b (by rw [h, List.cons_append]))
      (by simpa using hclosed)
    rw [List.cons_append, toQuote?, hinside, if_neg (by decide), hnext, List.append_assoc,
      List.singleton_append]

theorem toQuote?_of_writes (h : Writes body s) (r : List Char) :
    toQuote? [] (body ++ '"' :: r) = some (body, r) :=
  toQuote?_append (p := []) h.guarded h.closed r

theorem quotedText_of_writes (h : Writes body s) : quotedText body = s := by
  have hbytes : (unescape body).map (fun c => UInt8.ofNat c.toNat) = utf8 s := by
    have hmap := congrArg (List.map UInt8.ofNat) h.bytes
    simpa [List.map_map, Function.comp_def] using hmap
  rw [quotedText, hbytes, Text.decode_utf8]

/-- A cell is read up to its closing quote, whatever stands behind that. -/
theorem quotedCells?_quoteC (t sep rest : List Char) :
    quotedCells? sep (quoteC t ++ rest) =
      if rest = ['\n'] then some [t]
      else if sep.isPrefixOf rest then (quotedCells? sep (rest.drop sep.length)).map (t :: ·)
      else none := by
  have hwrites := Text.writes_quoted t
  have hquote := toQuote?_of_writes hwrites rest
  rw [Text.quoteC_eq, List.cons_append, List.append_assoc, List.singleton_append, quotedCells?,
    if_pos (by rfl)]
  split
  · next hnone => simp [hquote] at hnone
  · next body rest' hsome =>
    obtain ⟨rfl, rfl⟩ : _ = body ∧ rest = rest' := by simpa [hquote] using hsome
    rw [quotedText_of_writes hwrites]

/-- The separator behind a cell is skipped, whatever it is: at the end of a line less is left than
another cell takes. -/
theorem quotedCells?_cons (t sep : List Char) {line : List Char} (hline : 1 < line.length) :
    quotedCells? sep (quoteC t ++ (sep ++ line)) = (quotedCells? sep line).map (t :: ·) := by
  have hmore : sep ++ line ≠ ['\n'] := by
    intro h
    have hlength := congrArg List.length h
    simp at hlength
    omega
  rw [quotedCells?_quoteC, if_neg hmore, if_pos (by simp), List.drop_left]

end

private theorem one_lt_length_quoteC_append (t r : List Char) : 1 < (quoteC t ++ r).length := by
  rw [Text.quoteC_eq, List.cons_append, List.length_cons, List.length_append, List.length_append,
    List.length_singleton]
  omega

theorem quotedCells?_intercalate (t : List Char) (texts : List (List Char)) (sep : List Char) :
    quotedCells? sep (sep.intercalate ((t :: texts).map quoteC) ++ ['\n']) = some (t :: texts) := by
  induction texts generalizing t with
  | nil => simp [quotedCells?_quoteC]
  | cons u texts ih =>
    have hnext : 1 < (sep.intercalate ((u :: texts).map quoteC) ++ ['\n']).length := by
      cases texts with
      | nil => simpa using one_lt_length_quoteC_append u ['\n']
      | cons v texts =>
        rw [List.map_cons, List.map_cons, List.intercalate_cons_cons, List.append_assoc,
          List.append_assoc]
        exact one_lt_length_quoteC_append u _
    rw [List.map_cons, List.map_cons, List.intercalate_cons_cons, List.append_assoc,
      List.append_assoc, ← List.map_cons, quotedCells?_cons t sep hnext, ih, Option.map_some]

/-- Quoted texts between which the session's separator stands are read back as those texts. -/
theorem cells?_joined (s : Settings) (texts : List (List Char)) :
    cells? s.separator.toList (joined s (texts.map quoteC) ['\n']) = some texts := by
  cases texts with
  | nil => simp [joined, cells?]
  | cons t texts =>
    have hcells := quotedCells?_intercalate t texts s.separator.toList
    rw [joined, cells?, if_neg, hcells]
    intro h
    rw [h] at hcells
    simp [quotedCells?] at hcells

/-- The line of a row, read back cell by cell: the texts of its values, and before them the names of
the columns where the row stands under them. -/
def ReadsBack (s : Settings) (row : Row) (text : List Char) : Prop :=
  ∃ header body, text = header ++ body ∧
    (if row.isHeaded s then cells? s.separator.toList header = some row.names else header = []) ∧
    cells? s.separator.toList body = some (row.texts s)

theorem readsBack_tclText (s : Settings) (row : Row) : ReadsBack s row (tclText s row) := by
  refine ⟨if row.isHeaded s then joined s (row.names.map quoteC) ['\n'] else [], _, ?_, ?_,
    cells?_joined s (row.texts s)⟩
  · rw [tclText, headed]
    split <;> rfl
  · split
    · exact cells?_joined s row.names
    · rfl

/-- A C string is printable ASCII between quotes that shows where it ends, and its escapes resolve
to the bytes of the text it writes. So the lines of rows in that layout can be read back cell by
cell, whatever the separator and the values are. -/
theorem quoteC_decodable :
    (∀ s, ∃ body, quoteC s = '"' :: (body ++ ['"']) ∧ Writes body s) ∧
    ∀ (session : Session) (rows : List Row) (s : Scene (List Int)),
      session.settings.mode = .tcl → s.world.Accepts session.output →
      ∃ texts s', rows.forM (writeRow session) s = (.ok (), s') ∧
        s'.world.written session.output =
          s.world.written session.output ++ texts.map String.ofList ∧
        List.Forall₂ (ReadsBack session.settings) rows texts := by
  refine ⟨fun s => ⟨_, Text.quoteC_eq s, Text.writes_quoted s⟩, fun session rows s hmode hopen => ?_⟩
  have htext : ∀ row ∈ rows, ∀ kept,
      rowText session.settings kept row = some (tclText session.settings row, kept) := by
    intro row _ kept
    rw [rowText, hmode]
  obtain ⟨s', hwrite, hwritten⟩ := exists_writeRows htext hopen
  refine ⟨rows.map (tclText session.settings), s', hwrite, ?_, ?_⟩
  · rw [hwritten, List.map_map]
    rfl
  · rw [List.forall₂_map_right_iff, List.forall₂_same]
    exact fun row _ => readsBack_tclText session.settings row

/-- A row with a quote, a backslash, a digit behind an escape and text outside ASCII in it. -/
def awkwardRow : Row where
  columns := ["a\"", "b"]
  values := [.text "\\\"\x011", .null]
  typed := true
  index := 0

theorem quoteC_decodable_awkward :
    let session : Session := { settings :=
      { mode := .tcl, header := true, separator := "\n", nullvalue := "é" } }
    session.settings.mode = .tcl ∧ World.Accepts {} session.output ∧
    ∃ texts s', [awkwardRow, awkwardRow].forM (writeRow session) ⟨{}, []⟩ = (.ok (), s') ∧
      s'.world.written .stdout = texts.map String.ofList ∧
      List.Forall₂ (ReadsBack session.settings) [awkwardRow, awkwardRow] texts := by
  intro session
  obtain ⟨texts, s', hwrite, hwritten, hread⟩ :=
    quoteC_decodable.2 session [awkwardRow, awkwardRow] ⟨{}, []⟩ rfl trivial
  exact ⟨rfl, trivial, texts, s', hwrite, hwritten, hread⟩

/-- Where a separator is like the end of a line, or holds a quote, the cells are still told apart. -/
example : cells? ['\n'] "\"a\\\"\"\n\"\\303\\2511\"\n".toList =
    some ["a\"".toList, "é1".toList] := by
  decide +kernel

end SqlConsole.Layout

import SqlConsole.Proofs.Text.Lines
import SqlConsole.Proofs.Text.Utf8

/-! A file read in blocks gives the lines of its text, wherever a block ends. -/
namespace SqlConsole.Text.Reader

/-- The reader keeps line ends, and this text of the bytes is still to come: what has been read ahead,
a CR that was held back, and what the other bytes decode to. -/
structure Awaits (r : Reader) (bytes : List UInt8) (text : List Char) : Prop where
  ends : r.ends = .kept
  held : r.ahead.getLast? = some '\r' → r.heldReturn
  rest : ∃ cs, decodeBlock r.unfinished (bytes.drop r.passed) = some (cs, none) ∧
    text = r.ahead ++ if r.heldReturn then '\r' :: cs else cs

theorem awaits_start (text : List Char) : Awaits { ends := .kept } (utf8 text) text where
  ends := rfl
  held h := by cases h
  rest := ⟨text, decodeBlock_utf8 text, rfl⟩

/-- A block that ends no character adds nothing; of any other one a CR at its end is held back. -/
theorem fill?_eq {r : Reader} {block : List UInt8} {cs : List Char} {u : Option Unfinished}
    (hends : r.ends = .kept) (hblock : decodeBlock r.unfinished block = some (cs, u)) :
    (cs = [] ∧ r.fill? block = some { r with
        passed := r.passed + block.length
        unfinished := u }) ∨
      ∃ (read : List Char) (held : Bool),
        (read ++ if held then ['\r'] else []) = (if r.heldReturn then '\r' :: cs else cs) ∧
        (read.getLast? = some '\r' → held) ∧ (read = [] → held) ∧
        r.fill? block = some { r with
          passed := r.passed + block.length
          unfinished := u
          heldReturn := held
          ahead := r.ahead ++ read } := by
  by_cases hcs : cs = []
  · subst hcs
    exact Or.inl ⟨rfl, by simp [fill?, hblock, hends, LineEnds.apply]⟩
  · have hempty : cs.isEmpty = false := by simpa using hcs
    right
    simp only [fill?, hblock, hends, LineEnds.apply, Option.map_some, hempty, Bool.not_false,
      Bool.and_true, Bool.and_false, Bool.or_false]
    have hne : (if r.heldReturn then '\r' :: cs else cs) ≠ [] := by
      split <;> simp [hcs]
    generalize (if r.heldReturn then '\r' :: cs else cs) = text at hne
    by_cases hlast : text.getLast? = some '\r'
    · obtain ⟨read, rfl⟩ := List.getLast?_eq_some_iff.1 hlast
      exact ⟨read, true, rfl, fun _ => rfl, fun _ => rfl, by simp⟩
    · exact ⟨text, false, by simp, fun h => absurd h hlast, fun h => absurd h hne, by simp [hlast]⟩

private theorem take_cons_append_drop (b : UInt8) (bs : List UInt8) :
    b :: bs = (b :: bs.take (blockSize - 1)) ++ bs.drop (blockSize - 1) := by
  rw [List.cons_append, List.take_append_drop]

/-- Another block is read. -/
theorem fill?_awaits {r : Reader} {bytes block rest : List UInt8} {text : List Char}
    (h : r.Awaits bytes text) (hbytes : bytes.drop r.passed = block ++ rest) :
    ∃ r', r.fill? block = some r' ∧ r'.Awaits bytes text ∧ bytes.drop r'.passed = rest := by
  obtain ⟨cs, hdecode, rfl⟩ := h.rest
  rw [hbytes, decodeBlock_append, Option.bind_eq_some_iff] at hdecode
  obtain ⟨⟨cs₁, u⟩, hblock, hdecode⟩ := hdecode
  obtain ⟨⟨cs₂, u'⟩, hrest, heq⟩ := Option.map_eq_some_iff.1 hdecode
  obtain ⟨rfl, rfl⟩ : cs₁ ++ cs₂ = cs ∧ u' = none := by simpa using heq
  have hdrop : bytes.drop (r.passed + block.length) = rest := by
    rw [← List.drop_drop, hbytes, List.drop_left]
  rcases fill?_eq h.ends hblock with ⟨rfl, hfill⟩ | ⟨read, held, hread, hlast, hnil, hfill⟩
  · refine ⟨_, hfill, ⟨h.ends, h.held, cs₂, ?_, by simp⟩, hdrop⟩
    simpa [hdrop] using hrest
  · refine ⟨_, hfill, ⟨h.ends, ?_, cs₂, ?_, ?_⟩, hdrop⟩
    · intro hcr
      by_cases hr : read = []
      · exact hnil hr
      · exact hlast (by simpa [List.getLast?_append, hr] using hcr)
    · simpa [hdrop] using hrest
    · have hassoc : (if r.heldReturn then '\r' :: (cs₁ ++ cs₂) else cs₁ ++ cs₂) =
          (if r.heldReturn then '\r' :: cs₁ else cs₁) ++ cs₂ := by split <;> rfl
      rw [hassoc, ← hread]
      cases held <;> simp

/-- A line is taken from what has been read ahead. -/
theorem take?_awaits {r r' : Reader} {bytes : List UInt8} {text l : List Char}
    (h : r.Awaits bytes text) (htake : r.take? = some (l, r')) :
    ∃ rest, anyLines text = l :: anyLines rest ∧ r'.Awaits bytes rest := by
  obtain ⟨cs, hdecode, rfl⟩ := h.rest
  obtain ⟨⟨l', ahead⟩, hcut, heq⟩ := Option.map_eq_some_iff.1 htake
  obtain ⟨rfl, rfl⟩ : l' = l ∧ { r with ahead } = r' := by simpa using heq
  refine ⟨_, anyLines_of_cutLine? hcut _ ?_, h.ends, ?_, cs, hdecode, rfl⟩
  · intro hcr
    simp [h.held hcr]
  · intro hcr
    refine h.held ?_
    rw [← append_of_cutLine? hcut, List.getLast?_append, hcr]
    rfl

/-- At the end of the bytes all that is left is the last line. -/
theorem takeLast?_awaits {r : Reader} {bytes : List UInt8} {text : List Char}
    (h : r.Awaits bytes text) (hbytes : bytes.drop r.passed = []) (htake : r.take? = none) :
    ∃ r', r.takeLast? = some ((anyLines text).headD [], r') ∧ r'.Awaits bytes [] ∧
      (anyLines text).tail = [] := by
  obtain ⟨cs, hdecode, htext⟩ := h.rest
  rw [hbytes, decodeBlock] at hdecode
  obtain ⟨rfl, hu⟩ : [] = cs ∧ r.unfinished = none := by simpa using hdecode
  have hplain := not_lineEnd_of_cutLine? (Option.map_eq_none_iff.1 htake)
  have hlines : (anyLines text).headD [] = text ∧ (anyLines text).tail = [] := by
    subst htext
    rw [anyLines_append hplain]
    cases r.heldReturn with
    | true => simp [anyLines_lineEnd (c := '\r') (r := []) rfl (by simp), anyLines, foldr_attach_cons]
    | false =>
      by_cases hahead : r.ahead = []
      · simp [hahead, anyLines]
      · simp [anyLines, foldr_attach_nil hahead]
  refine ⟨{ r with ahead := [], heldReturn := false }, ?_, ⟨h.ends, by simp, [], ?_, rfl⟩, hlines.2⟩
  · rw [hlines.1, htext]
    cases hheld : r.heldReturn <;> simp [takeLast?, hu, h.ends, hheld, LineEnds.apply]
  · simp [hbytes, hu, decodeBlock]

/-- The next line, when none can be taken from what has been read ahead. -/
theorem lineFrom?_awaits {r : Reader} {bytes rest : List UInt8} {text : List Char}
    (h : r.Awaits bytes text) (hbytes : bytes.drop r.passed = rest) (htake : r.take? = none) :
    ∃ r' left, r.lineFrom? rest = some ((anyLines text).headD [], r') ∧ r'.Awaits bytes left ∧
      anyLines left = (anyLines text).tail := by
  fun_induction lineFrom? r rest with
  | case1 r =>
    obtain ⟨r', hlast, hawaits, htail⟩ := takeLast?_awaits h hbytes htake
    exact ⟨r', [], hlast, hawaits, by rw [htail, anyLines]⟩
  | case2 r b bs hfill =>
    obtain ⟨r', hread, -⟩ := fill?_awaits h (hbytes.trans (take_cons_append_drop b bs))
    simp [hfill] at hread
  | case3 r b bs r₁ hfill found hfound =>
    obtain ⟨r₂, hread, hawaits, -⟩ := fill?_awaits h (hbytes.trans (take_cons_append_drop b bs))
    obtain rfl : r₁ = r₂ := Option.some_inj.1 (hfill.symm.trans hread)
    obtain ⟨line, r'⟩ := found
    obtain ⟨left, hlines, hleft⟩ := take?_awaits hawaits hfound
    exact ⟨r', left, by simp [hlines], hleft, by simp [hlines]⟩
  | case4 r b bs r₁ hfill hnone ih =>
    obtain ⟨r₂, hread, hawaits, hrest⟩ := fill?_awaits h (hbytes.trans (take_cons_append_drop b bs))
    obtain rfl : r₁ = r₂ := Option.some_inj.1 (hfill.symm.trans hread)
    exact ih hawaits hrest hnone

/-- The line that is read is the first one of the text that is still to come. -/
theorem line?_awaits {r : Reader} {bytes : List UInt8} {text : List Char} (h : r.Awaits bytes text) :
    ∃ r' left, r.line? bytes = some ((anyLines text).headD [], r') ∧ r'.Awaits bytes left ∧
      anyLines left = (anyLines text).tail := by
  unfold line?
  split
  · next found hfound =>
    obtain ⟨line, r'⟩ := found
    obtain ⟨left, hlines, hleft⟩ := take?_awaits h hfound
    exact ⟨r', left, by simp [hlines], hleft, by simp [hlines]⟩
  · next hnone => exact lineFrom?_awaits h rfl hnone

end SqlConsole.Text.Reader

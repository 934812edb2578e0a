import SqlConsole.Proofs.Statement.OnePass
import SqlConsole.Text.Doubled

/-! Text inside a statement that does not end it: it is read as whole tokens, none of which is a
semicolon. -/
namespace SqlConsole.Statement

/-- In front of `rest` the text is read as whole tokens, and none of them is a semicolon. -/
def Inert (s rest : List Char) : Prop :=
  ∃ ts, Reads (s ++ rest) ts rest ∧ ∀ t ∈ ts, t.kind ≠ .semicolon

theorem shape_of_isWordChar {c : Char} (hc : isWordChar c) (next? : Option Char) :
    shape c next? = .word := by
  have hne (d : Char) (hd : isWordChar d = false) : c ≠ d := by
    rintro rfl
    rw [hc] at hd
    cases hd
  have hspace : isSpace c = false := by
    simp [isSpace, hne ' ' (by decide), hne '\r' (by decide), hne '\t' (by decide),
      hne '\n' (by decide), hne '\x0c' (by decide)]
  simp [shape, hspace, hc, hne ';' (by decide), hne '/' (by decide), hne '-' (by decide),
    hne '[' (by decide), hne '\x27' (by decide), hne '"' (by decide), hne '\x60' (by decide)]

/-- A word that ends before `rest`. -/
theorem piece_word {c : Char} {m rest : List Char} (hw : ∀ x ∈ c :: m, isWordChar x)
    (hrest : ∀ x ∈ rest.head?, isWordChar x = false) :
    piece c (m ++ rest) = .token (keyword (c :: m)) (c :: m) rest := by
  obtain ⟨hc, hm⟩ := List.forall_mem_cons.1 hw
  have hend : rest.takeWhile isWordChar = [] ∧ rest.dropWhile isWordChar = rest := by
    cases rest with
    | nil => exact ⟨rfl, rfl⟩
    | cons d r => simp [hrest d rfl]
  rw [piece_eq_shape, shape_of_isWordChar hc]
  simp [Shape.piece, List.takeWhile_append_of_pos hm, List.dropWhile_append_of_pos hm, hend]

/-- A quoted token ends at the next quote. -/
theorem piece_quoted {v : List Char} (hv : '\x27' ∉ v) (r : List Char) :
    piece '\x27' (v ++ '\x27' :: r) = .token .other ('\x27' :: (v ++ ['\x27'])) r := by
  have hfound : through '\x27' (v ++ '\x27' :: r) = some (v ++ ['\x27'], r) :=
    through_eq_some.2 ⟨v, hv, rfl, rfl⟩
  have hshape : shape '\x27' (v ++ '\x27' :: r).head? =
      .fenced .other [] (.upTo '\x27') .unclosed := by
    simp [shape, isSpace]
  rw [piece_eq_shape, hshape]
  simp [Shape.piece, Fence.find, hfound]

namespace Inert
variable {s t rest : List Char}

theorem nil (rest : List Char) : Inert [] rest := ⟨[], .nil rest, by simp⟩

theorem append (hs : Inert s (t ++ rest)) (ht : Inert t rest) : Inert (s ++ t) rest := by
  obtain ⟨ts, hts, hs⟩ := hs
  obtain ⟨us, hus, ht⟩ := ht
  rw [← List.append_assoc] at hts
  exact ⟨ts ++ us, hts.trans hus, fun x hx => (List.mem_append.1 hx).elim (hs x) (ht x)⟩

theorem of_piece {c : Char} {m : List Char} {k : Token}
    (h : piece c (m ++ rest) = .token k (c :: m) rest) (hk : k ≠ .semicolon) :
    Inert (c :: m) rest :=
  ⟨[⟨k, c :: m⟩], .cons h (.nil rest), by simpa using hk⟩

theorem word {w : List Char} (hne : w ≠ []) (hw : ∀ c ∈ w, isWordChar c)
    (hrest : ∀ c ∈ rest.head?, isWordChar c = false) : Inert w rest := by
  obtain ⟨c, m, rfl⟩ := List.exists_cons_of_ne_nil hne
  exact of_piece (piece_word hw hrest) (keyword_of_word _).1

/-- Characters that are tokens by themselves, whatever follows. -/
theorem mark {c : Char} (hc : c ∈ [' ', '(', ')', ',', '.', '+', '\n']) (rest : List Char) :
    Inert [c] rest := by
  simp only [List.mem_cons, List.not_mem_nil, or_false] at hc
  rcases hc with rfl | rfl | rfl | rfl | rfl | rfl | rfl
  all_goals exact of_piece (k := _) (m := []) rfl (by decide)

theorem minus (hrest : rest.head? ≠ some '-') : Inert ['-'] rest := by
  refine of_piece (k := .other) (m := []) ?_ (by decide)
  rw [piece_eq_shape]
  simp [shape, hrest, isSpace, isWordChar, Shape.piece]

/-- Quotes that are written twice inside quotes do not end them for good. -/
theorem enclose (s rest : List Char) : Inert (Text.enclose '\x27' s) rest := by
  have hfrom (v : List Char) (hv : '\x27' ∉ v) :
      Inert ('\x27' :: (v ++ Text.double '\x27' s ++ ['\x27'])) rest := by
    induction s generalizing v with
    | nil =>
      refine of_piece (k := .other) ?_ (by decide)
      simpa using piece_quoted hv rest
    | cons c s ih =>
      rw [Text.double_cons]
      split
      · next hc =>
        -- the first of the two quotes ends one token, the second starts another
        have hfirst : Inert ('\x27' :: (v ++ ['\x27']))
            ('\x27' :: (Text.double '\x27' s ++ ['\x27']) ++ rest) := by
          refine of_piece (k := .other) ?_ (by decide)
          simpa using piece_quoted hv ('\x27' :: (Text.double '\x27' s ++ '\x27' :: rest))
        simpa [hc] using hfirst.append (ih [] (by simp))
      · next hc =>
        simpa using ih (v ++ [c]) (by simpa using ⟨hv, Ne.symm hc⟩)
  exact hfrom [] (by simp)

end Inert

/-- Such text leaves the statement open where a semicolon would end it. -/
theorem cuts_inert {held rest : List Char} {ts us : List Lexeme}
    (hts : ∀ t ∈ ts, t.kind ≠ .semicolon) :
    cuts .normal held (ts ++ us) rest = cuts .normal (held ++ spelling ts) us rest := by
  induction ts generalizing held with
  | nil => simp
  | cons t ts ih =>
    obtain ⟨ht, hts⟩ := List.forall_mem_cons.1 hts
    have hnext : State.normal.next t.kind = .normal := by
      cases hk : t.kind with
      | semicolon => exact absurd hk ht
      | _ => rfl
    rw [List.cons_append, cuts, if_neg (fun h => ht h.1), hnext, ih hts]
    simp

/-- In front of whatever follows the text is one statement with nothing before it. -/
def IsStatement (s : List Char) : Prop :=
  ∀ rest, ∃ ts, Reads (s ++ rest) ts rest ∧ ∀ held us tail,
    cuts .invalid held (ts ++ us) tail = (held ++ s) :: cuts .invalid [] us tail

/-- A word that the end of a statement does not depend on, more text that ends none, and a
semicolon. -/
theorem isStatement_of_inert {c : Char} {m s : List Char} (hw : ∀ x ∈ c :: m, isWordChar x)
    (hkeyword : keyword (c :: m) = .other) (hs : ∀ x ∈ s.head?, isWordChar x = false)
    (hinert : ∀ rest, Inert s (';' :: rest)) : IsStatement (c :: m ++ s ++ [';']) := by
  intro rest
  obtain ⟨ts, hts, hkinds⟩ := hinert rest
  have hhead : ∀ x ∈ (s ++ ';' :: rest).head?, isWordChar x = false := by
    cases s with
    | nil => simp [isWordChar]
    | cons d s => exact hs
  have hpiece := piece_word hw hhead
  rw [hkeyword] at hpiece
  have hsemicolon : Reads (';' :: rest) [⟨.semicolon, [';']⟩] rest :=
    .cons (piece_semicolon rest) (.nil rest)
  refine ⟨⟨.other, c :: m⟩ :: (ts ++ [⟨.semicolon, [';']⟩]), ?_, fun held us tail => ?_⟩
  · simpa using Reads.cons hpiece (hts.trans hsemicolon)
  · have hspelling : spelling ts = s := List.append_cancel_right hts.spelling_eq
    rw [List.cons_append, List.append_assoc, cuts, if_neg (by simp), show
      State.invalid.next .other = .normal from rfl, cuts_inert hkinds, List.singleton_append, cuts,
      if_pos ⟨rfl, rfl⟩, hspelling]
    simp

/-- Lines as parts: the end of a line belongs to the part that the next one is, and the last end
stands alone. -/
def lineParts : List (List Char) → List (List Char)
  | [] => []
  | s :: ss => s :: (ss.map ('\n' :: ·) ++ [['\n']])

/-- A statement on each line is a part for each line. -/
theorem parts_lines {ss : List (List Char)} (h : ∀ s ∈ ss, IsStatement s) :
    parts (ss.flatMap (· ++ ['\n'])) = lineParts ss := by
  have hnewline (rest : List Char) : piece '\n' rest = .token .blank ['\n'] rest := rfl
  have hblank (held : List Char) (ts : List Lexeme) :
      cuts .invalid held (⟨.blank, ['\n']⟩ :: ts) [] = cuts .invalid (held ++ ['\n']) ts [] := by
    rw [cuts, if_neg (by simp)]
    rfl
  have hfrom (ss : List (List Char)) (h : ∀ s ∈ ss, IsStatement s) :
      ∃ ts, Reads ('\n' :: ss.flatMap (· ++ ['\n'])) ts [] ∧
        cuts .invalid [] ts [] = ss.map ('\n' :: ·) ++ [['\n']] := by
    induction ss with
    | nil =>
      refine ⟨[⟨.blank, ['\n']⟩], .cons (hnewline []) (.nil []), ?_⟩
      rw [hblank]
      rfl
    | cons s ss ih =>
      obtain ⟨hs, hss⟩ := List.forall_mem_cons.1 h
      obtain ⟨us, hus, hcuts⟩ := ih hss
      obtain ⟨ts, hts, hcut⟩ := hs ('\n' :: ss.flatMap (· ++ ['\n']))
      refine ⟨⟨.blank, ['\n']⟩ :: (ts ++ us), ?_, ?_⟩
      · have hread := Reads.cons (hnewline _) (hts.trans hus)
        simpa using hread
      · rw [hblank, hcut, hcuts]
        rfl
  cases ss with
  | nil => simp [lineParts, parts]
  | cons s ss =>
    obtain ⟨hs, hss⟩ := List.forall_mem_cons.1 h
    obtain ⟨us, hus, hcuts⟩ := hfrom ss hss
    obtain ⟨ts, hts, hcut⟩ := hs ('\n' :: ss.flatMap (· ++ ['\n']))
    have hread : Reads ((s :: ss).flatMap (· ++ ['\n'])) (ts ++ us) [] := by
      simpa using hts.trans hus
    rw [parts_of_reads hread, hcut, hcuts]
    rfl

end SqlConsole.Statement

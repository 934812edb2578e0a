import SqlConsole.Text.Markup

/-! Text inside HTML, read back: entities are undone in one pass, and tags are told apart from the text
between them. -/
namespace SqlConsole.Text

/-- The five entities as their characters, in one pass from the left. All other text stays, also where
an ampersand starts it. -/
def unescapeHtml : List Char → List Char
  | '&' :: 'a' :: 'm' :: 'p' :: ';' :: r => '&' :: unescapeHtml r
  | '&' :: 'l' :: 't' :: ';' :: r => '<' :: unescapeHtml r
  | '&' :: 'g' :: 't' :: ';' :: r => '>' :: unescapeHtml r
  | '&' :: 'q' :: 'u' :: 'o' :: 't' :: ';' :: r => '"' :: unescapeHtml r
  | '&' :: '#' :: '3' :: '9' :: ';' :: r => '\x27' :: unescapeHtml r
  | c :: r => c :: unescapeHtml r
  | [] => []

/-- The characters that bound tags and the values in them. -/
def markup : List Char := ['<', '>', '"', '\x27']

/-- The text with `new` in the place of every `c`. -/
def replaceAll (c : Char) (new : String) (s : List Char) : List Char :=
  s.flatMap fun d => if d = c then new.toList else [d]

/-- One character after the other is replaced in the whole text. -/
def replaceInTurn : List (Char × String) → List Char → List Char
  | [], s => s
  | (c, new) :: table, s => replaceInTurn table (replaceAll c new s)

def entities : List (Char × String) :=
  [('&', "&amp;"), ('<', "&lt;"), ('>', "&gt;"), ('"', "&quot;"), ('\x27', "&#39;")]

/-- A tag, without its angle brackets, and the text behind it. -/
structure Tagged where
  tag : List Char
  text : List Char
  deriving DecidableEq, Repr

/-- The text before the first tag, and each tag with the text up to the next one. The first argument is
what has been read of a tag. None when a tag does not end. -/
def tagsFrom? : Option (List Char) → List Char → Option (List Char × List Tagged)
  | none, [] => some ([], [])
  | some _, [] => none
  | none, c :: r =>
    if c = '<' then tagsFrom? (some []) r
    else (tagsFrom? none r).map fun (text, pieces) => (c :: text, pieces)
  | some tag, c :: r =>
    if c = '>' then (tagsFrom? none r).map fun (text, pieces) => ([], ⟨tag, text⟩ :: pieces)
    else tagsFrom? (some (tag ++ [c])) r

/-- A text cut at its tags. -/
def tags? (s : List Char) : Option (List Char × List Tagged) := tagsFrom? none s

section Entity
variable {c : Char} {s : List Char}

theorem entity_cases (c : Char) : c ∈ '&' :: markup ∨ c ∉ '&' :: markup ∧ entity c = [c] := by
  by_cases h : c ∈ '&' :: markup
  · exact .inl h
  · refine .inr ⟨h, ?_⟩
    simp only [markup, List.mem_cons, List.not_mem_nil, or_false, not_or] at h
    obtain ⟨hamp, hlt, hgt, hquot, hapos⟩ := h
    rw [entity, if_neg hamp, if_neg hlt, if_neg hgt, if_neg hquot, if_neg hapos]

theorem escapeHtml_cons (c : Char) (s : List Char) : escapeHtml (c :: s) = entity c ++ escapeHtml s := rfl

theorem unescapeHtml_cons (hc : c ≠ '&') (r : List Char) :
    unescapeHtml (c :: r) = c :: unescapeHtml r := by
  rw [unescapeHtml.eq_6] <;> exact fun _ h => absurd h hc

theorem unescapeHtml_entity (c : Char) (r : List Char) :
    unescapeHtml (entity c ++ r) = c :: unescapeHtml r := by
  rcases entity_cases c with h | ⟨h, hplain⟩
  · simp only [markup, List.mem_cons, List.not_mem_nil, or_false] at h
    rcases h with rfl | rfl | rfl | rfl | rfl <;> rfl
  · rw [hplain, List.singleton_append, unescapeHtml_cons (List.ne_of_not_mem_cons h)]

theorem unescapeHtml_escapeHtml (s : List Char) : unescapeHtml (escapeHtml s) = s := by
  induction s with
  | nil => rfl
  | cons c s ih => rw [escapeHtml_cons, unescapeHtml_entity, ih]

theorem not_mem_markup (s : List Char) : ∀ c ∈ escapeHtml s, c ∉ markup := by
  intro c hc
  obtain ⟨d, -, hd⟩ := List.mem_flatMap.1 hc
  rcases entity_cases d with h | ⟨h, hplain⟩
  · -- the entities themselves are made of other characters
    have hentities : ('&' :: markup).all fun d => (entity d).all fun c => c ∉ markup := by decide
    exact of_decide_eq_true (List.all_eq_true.1 (List.all_eq_true.1 hentities d h) c hd)
  · rw [hplain, List.mem_singleton] at hd
    exact hd ▸ fun hmem => h (List.mem_cons_of_mem _ hmem)

theorem replaceInTurn_append (table : List (Char × String)) (s t : List Char) :
    replaceInTurn table (s ++ t) = replaceInTurn table s ++ replaceInTurn table t := by
  induction table generalizing s t with
  | nil => rfl
  | cons p table ih => rw [replaceInTurn, replaceAll, List.flatMap_append, ih]; rfl

theorem replaceInTurn_singleton {table : List (Char × String)} (h : ∀ p ∈ table, c ≠ p.1) :
    replaceInTurn table [c] = [c] := by
  induction table with
  | nil => rfl
  | cons p table ih =>
    obtain ⟨hp, htable⟩ := List.forall_mem_cons.1 h
    rw [replaceInTurn, replaceAll, List.flatMap_singleton, if_neg hp, ih htable]

/-- The characters can be replaced in turn, where the ampersands come first: no entity holds a character
that is replaced after it. -/
theorem escapeHtml_eq_replaceInTurn (s : List Char) : escapeHtml s = replaceInTurn entities s := by
  induction s with
  | nil => rfl
  | cons c s ih =>
    have hchar : entity c = replaceInTurn entities [c] := by
      rcases entity_cases c with h | ⟨h, hplain⟩
      · have hspecial : ('&' :: markup).all fun c => entity c = replaceInTurn entities [c] := by
          decide
        exact of_decide_eq_true (List.all_eq_true.1 hspecial c h)
      · have hkeys : ∀ p ∈ entities, p.1 ∈ '&' :: markup := by decide
        rw [hplain, replaceInTurn_singleton fun p hp (hc : c = p.1) => h (hc ▸ hkeys p hp)]
    rw [escapeHtml_cons, ih, hchar, ← replaceInTurn_append, List.singleton_append]

end Entity

section Tags

theorem tags?_nil : tags? [] = some ([], []) := rfl

/-- Text in front of a tag. -/
theorem tags?_text {t : List Char} (ht : '<' ∉ t) (r : List Char) :
    tags? (t ++ r) = (tags? r).map fun (text, pieces) => (t ++ text, pieces) := by
  induction t with
  | nil => cases h : tags? r <;> simp [h]
  | cons c t ih =>
    obtain ⟨hc, ht⟩ := List.ne_and_not_mem_of_not_mem_cons ht
    have hcut : tags? (c :: (t ++ r)) = (tags? (t ++ r)).map fun (text, pieces) => (c :: text, pieces) := by
      rw [tags?, tagsFrom?, if_neg (Ne.symm hc), tags?]
    rw [List.cons_append, hcut, ih ht, Option.map_map]
    rfl

private theorem tagsFrom?_tag {tag : List Char} (htag : '>' ∉ tag) (read r : List Char) :
    tagsFrom? (some read) (tag ++ '>' :: r) =
      (tags? r).map fun (text, pieces) => ([], ⟨read ++ tag, text⟩ :: pieces) := by
  induction tag generalizing read with
  | nil => rw [List.nil_append, tagsFrom?, if_pos rfl, List.append_nil, tags?]
  | cons c tag ih =>
    obtain ⟨hc, htag⟩ := List.ne_and_not_mem_of_not_mem_cons htag
    rw [List.cons_append, tagsFrom?, if_neg (Ne.symm hc), ih htag, List.append_assoc,
      List.singleton_append]

/-- A tag up to its end. -/
theorem tags?_tag {tag : List Char} (htag : '>' ∉ tag) (r : List Char) :
    tags? ('<' :: (tag ++ '>' :: r)) =
      (tags? r).map fun (text, pieces) => ([], ⟨tag, text⟩ :: pieces) := by
  rw [tags?, tagsFrom?, if_pos rfl, tagsFrom?_tag htag, List.nil_append]

/-- A tag with text behind it, where another tag follows or the end. -/
theorem tags?_tagged {tag t r : List Char} {pieces : List Tagged} (htag : '>' ∉ tag) (ht : '<' ∉ t)
    (hr : tags? r = some ([], pieces)) :
    tags? ('<' :: (tag ++ '>' :: (t ++ r))) = some ([], ⟨tag, t⟩ :: pieces) := by
  simp only [tags?_tag htag, tags?_text ht, hr, Option.map_some, List.append_nil]

end Tags
end SqlConsole.Text

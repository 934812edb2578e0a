import SqlConsole.Proofs.Delimited.RoundTrip

/-! Separators of several characters. Behind a field that is written as it stands such a separator may
be met too early, at a place where the end of the field and the start of the separator make one up. -/
namespace SqlConsole.Delimited

/-- The separator behind a text is met at a place inside the text. -/
def overlaps (separator : List Char) : List Char → Bool
  | [] => false
  | c :: r => separator.isPrefixOf (c :: (r ++ separator)) || overlaps separator r

section
variable {separator s t : List Char}

theorem overlaps_iff : overlaps separator s ↔
    ∃ a b, s = a ++ b ∧ b ≠ [] ∧ separator <+: b ++ separator := by
  induction s with
  | nil => simp [overlaps]
  | cons c s ih =>
    rw [overlaps, Bool.or_eq_true, ih, List.isPrefixOf_iff_prefix]
    constructor
    · rintro (h | ⟨a, b, rfl, hb, h⟩)
      · exact ⟨[], c :: s, rfl, by simp, h⟩
      · exact ⟨c :: a, b, rfl, hb, h⟩
    · rintro ⟨a, b, hs, hb, h⟩
      cases a with
      | nil =>
        rw [List.nil_append] at hs
        exact .inl (by rw [← List.cons_append, hs]; exact h)
      | cons d a =>
        obtain ⟨rfl, rfl⟩ := List.cons.inj hs
        exact .inr ⟨a, b, rfl, hb, h⟩

theorem occursIn_of_occurs (h : separator <:+: s) : occursIn separator s := by
  induction s with
  | nil => simp [occursIn, List.infix_nil.1 h]
  | cons c s ih =>
    rw [occursIn, Bool.or_eq_true, List.isPrefixOf_iff_prefix]
    exact (List.infix_cons_iff.1 h).imp_right ih

/-- A separator is not met too early if no start of it is an end of it as well. -/
theorem overlaps_of_borderless
    (hborder : ∀ x, x <+: separator → x <:+ separator → x = [] ∨ x = separator)
    (hs : occursIn separator s = false) : overlaps separator s = false := by
  have hnowhere : ¬ separator <:+: s := fun h => by simp [occursIn_of_occurs h] at hs
  rw [Bool.eq_false_iff, ne_eq, overlaps_iff]
  rintro ⟨a, b, rfl, hb, hmet⟩
  rcases List.prefix_or_prefix_of_prefix hmet (List.prefix_append b separator) with hinside | ⟨x, rfl⟩
  · exact hnowhere (hinside.isInfix.trans (List.suffix_append a b).isInfix)
  · -- What the text leaves of the separator is a start of the separator again.
    have hstart : x <+: b ++ x := (List.prefix_append_right_inj b).1 hmet
    rcases hborder x hstart (List.suffix_append b x) with rfl | hwhole
    · exact hnowhere ⟨a, [], by simp⟩
    · exact hb (List.self_eq_append_left.1 hwhole)

theorem cutAt_passing (separator : List Char) (quoted : Bool) (t r : List Char) :
    cutAt separator t.length quoted (t ++ r) = cutAt separator 0 quoted r := by
  induction t with
  | nil => rfl
  | cons c t ih => rw [List.cons_append, List.length_cons, cutAt, ih]

section
variable (hne : separator ≠ []) (hquote : '"' ∉ separator)
include hne hquote

/-- Outside of quotes a separator ends a field. -/
theorem cutAt_separator (r : List Char) :
    cutAt separator 0 false (separator ++ r) = [] :: cutAt separator 0 false r := by
  obtain ⟨m, ms, rfl⟩ := List.exists_cons_of_ne_nil hne
  have hm : m ≠ '"' := fun h => hquote (h ▸ List.mem_cons_self)
  have hmet : (!false && (m :: ms).isPrefixOf (m :: (ms ++ r))) = true := by
    simp [List.isPrefixOf]
  rw [List.cons_append, cutAt, if_neg hm, if_pos hmet, List.length_cons, Nat.add_sub_cancel,
    cutAt_passing]

/-- A text in quotes is not cut, and the separator behind it is met where it starts. -/
theorem cutAt_enclose (t r : List Char) :
    cutAt separator 0 false (Text.enclose '"' t ++ (separator ++ r)) =
      Text.enclose '"' t :: cutAt separator 0 false r := by
  obtain ⟨m, ms, rfl⟩ := List.exists_cons_of_ne_nil hne
  have hm : ('"' == m) = false := beq_eq_false_iff_ne.2 fun h => hquote (h ▸ List.mem_cons_self)
  rw [cutAt_sheltered ms (sheltered_enclose (p := (· == m)) hm t), isBalanced_enclose, Bool.not_true,
    Bool.xor_false, cutAt_separator (by simp) hquote, Text.foldr_attach_cons, List.append_nil]

/-- A text without quotes is cut where the separator behind it is met. -/
theorem cutAt_plain (hs : ∀ c ∈ s, c ≠ '"') (hmet : overlaps separator s = false) (r : List Char) :
    cutAt separator 0 false (s ++ (separator ++ r)) = s :: cutAt separator 0 false r := by
  induction s with
  | nil => exact cutAt_separator hne hquote r
  | cons c s ih =>
    rw [overlaps, Bool.or_eq_false_iff] at hmet
    obtain ⟨hc, hs⟩ := List.forall_mem_cons.1 hs
    have hcut : ¬ (!false && separator.isPrefixOf (c :: (s ++ (separator ++ r)))) = true := by
      intro h
      have hlong : separator <+: (c :: (s ++ separator)) ++ r := by
        simpa using List.isPrefixOf_iff_prefix.1 h
      have hshort : separator <+: c :: (s ++ separator) :=
        List.prefix_of_prefix_length_le hlong (List.prefix_append _ r) (by simp; omega)
      rw [List.isPrefixOf_iff_prefix.2 hshort] at hmet
      exact absurd hmet.1 (by simp)
    rw [List.cons_append, cutAt, if_neg hc, if_neg hcut, ih hs hmet.2]
    rfl

omit hne hquote in
/-- Where the separator is met too early, less than the text is left of it. -/
theorem cutAt_early (hs : ∀ c ∈ s, c ≠ '"') (hmet : overlaps separator s) (r : List Char) :
    ∃ start ls, cutAt separator 0 false (s ++ (separator ++ r)) = start :: ls ∧
      start.length < s.length ∧ ∀ c ∈ start, c ≠ '"' := by
  induction s with
  | nil => cases hmet
  | cons c s ih =>
    obtain ⟨hc, hs⟩ := List.forall_mem_cons.1 hs
    rw [List.cons_append, cutAt, if_neg hc]
    by_cases hhere : separator.isPrefixOf (c :: (s ++ (separator ++ r)))
    · rw [if_pos (by simpa using hhere)]
      exact ⟨[], _, rfl, by simp, by simp⟩
    · have hlater : overlaps separator s := by
        rw [overlaps, Bool.or_eq_true] at hmet
        refine hmet.resolve_left fun h => hhere ?_
        rw [List.isPrefixOf_iff_prefix] at h ⊢
        exact h.trans ⟨r, by simp⟩
      obtain ⟨start, ls, hcut, hlength, hstart⟩ := ih hs hlater
      rw [if_neg (by simpa using hhere), hcut]
      exact ⟨c :: start, ls, rfl, by simpa using hlength, by simpa using ⟨hc, hstart⟩⟩

end

/-- A text in which nothing is to be quoted is one field. -/
theorem cutAt_last (hs : ∀ c ∈ s, c ≠ '"') (hmet : occursIn separator s = false) :
    cutAt separator 0 false s = [s] := by
  induction s with
  | nil => rfl
  | cons c s ih =>
    rw [occursIn, Bool.or_eq_false_iff] at hmet
    obtain ⟨hc, hs⟩ := List.forall_mem_cons.1 hs
    rw [cutAt, if_neg hc, if_neg (by simp [hmet.1]), ih hs hmet.2]
    rfl

section
variable (hne : separator ≠ []) (hquote : '"' ∉ separator)
include hne hquote

/-- A field with the separator behind it is read back, if it is quoted or the separator is not met too
early. -/
theorem fields_cons (hread : needsQuote separator t = false → overlaps separator t = false)
    (r : List Char) :
    fields separator (field separator t ++ (separator ++ r)) = t :: fields separator r := by
  have hcut : cutAt separator 0 false (field separator t ++ (separator ++ r)) =
      field separator t :: cutAt separator 0 false r := by
    cases hneeds : needsQuote separator t with
    | true =>
      rw [field, if_pos hneeds]
      exact cutAt_enclose hne hquote t r
    | false =>
      rw [field, hneeds, if_neg (by simp)]
      exact cutAt_plain hne hquote (not_quote_of_not_needsQuote hneeds) (hread hneeds) r
  rw [fields, hcut, List.map_cons, unquote_field, ← fields]

theorem fields_singleton : fields separator (field separator t) = [t] := by
  have hcut : cutAt separator 0 false (field separator t) = [field separator t] := by
    cases hneeds : needsQuote separator t with
    | true =>
      obtain ⟨m, ms, rfl⟩ := List.exists_cons_of_ne_nil hne
      have hm : ('"' == m) = false :=
        beq_eq_false_iff_ne.2 fun h => hquote (h ▸ List.mem_cons_self)
      have hsheltered := cutAt_sheltered ms (sheltered_enclose (p := (· == m)) hm t) []
      rw [List.append_nil, cutAt, Text.foldr_attach_cons, List.append_nil] at hsheltered
      rw [field, if_pos hneeds, hsheltered]
    | false =>
      have hmet : occursIn separator t = false := by
        rw [needsQuote, Bool.or_eq_false_iff] at hneeds
        simpa [hne] using hneeds.1
      rw [field, hneeds, if_neg (by simp)]
      exact cutAt_last (not_quote_of_not_needsQuote hneeds) hmet
  rw [fields, hcut, List.map_cons, unquote_field, List.map_nil]

omit hne hquote in
/-- A field that is not quoted though the separator is met too early is not what is read. -/
theorem fields_ne_cons (hneeds : needsQuote separator t = false) (hmet : overlaps separator t)
    (r : List Char) (ts : List (List Char)) :
    fields separator (field separator t ++ (separator ++ r)) ≠ t :: ts := by
  obtain ⟨start, ls, hcut, hlength, hstart⟩ :=
    cutAt_early (not_quote_of_not_needsQuote hneeds) hmet r
  have hunquoted : unquote start = start := by
    unfold unquote
    split
    · exact absurd rfl (hstart '"' List.mem_cons_self)
    · rfl
  rw [field, hneeds, if_neg (by simp), fields, hcut, List.map_cons, hunquoted]
  intro h
  rw [(List.cons.inj h).1] at hlength
  exact absurd hlength (Nat.lt_irrefl _)

/-- The fields of a record are read back if of each but the last this holds: it is quoted, or the
separator behind it is not met too early. -/
theorem fields_joined_iff {ts : List (List Char)} (hts : ts ≠ []) :
    fields separator (separator.intercalate (ts.map (field separator))) = ts ↔
      ∀ t ∈ ts.dropLast, needsQuote separator t = false → overlaps separator t = false := by
  induction ts with
  | nil => exact absurd rfl hts
  | cons t ts ih =>
    cases ts with
    | nil => simpa using fields_singleton hne hquote
    | cons u ts =>
      rw [List.map_cons, List.map_cons, List.intercalate_cons_cons, List.append_assoc,
        ← List.map_cons, List.dropLast_cons_cons, List.forall_mem_cons]
      by_cases hread : needsQuote separator t = false → overlaps separator t = false
      · rw [fields_cons hne hquote hread, List.cons.injEq, ih (by simp)]
        exact ⟨fun h => ⟨hread, h.2⟩, fun h => ⟨rfl, h.2⟩⟩
      · obtain ⟨hneeds, hmet⟩ := Classical.not_imp.1 hread
        exact iff_of_false (fields_ne_cons hneeds (by simpa using hmet) _ _) fun h => hread h.1

end

/-- Which records are read back, where the separator is of any length and holds no quote: those in
which each field but the last is quoted or does not end so that the separator is met too early. With a
separator no start of which is an end of it as well, these are all. -/
theorem fields_readable_iff (hne : separator ≠ []) (hquote : '"' ∉ separator) :
    (∀ ts, ts ≠ [] →
      (fields separator (separator.intercalate (ts.map (field separator))) = ts ↔
        ∀ t ∈ ts.dropLast, needsQuote separator t = false → overlaps separator t = false)) ∧
    ((∀ x, x <+: separator → x <:+ separator → x = [] ∨ x = separator) →
      ∀ ts, ts ≠ [] →
        fields separator (separator.intercalate (ts.map (field separator))) = ts) := by
  refine ⟨fun ts hts => fields_joined_iff hne hquote hts, fun hborder ts hts => ?_⟩
  refine (fields_joined_iff hne hquote hts).2 fun t _ hneeds => overlaps_of_borderless hborder ?_
  rw [needsQuote, Bool.or_eq_false_iff] at hneeds
  simpa [hne] using hneeds.1

/-- A field that holds the separator is quoted, and behind the last field there is none to be met. -/
theorem fields_readable_iff_colons :
    let separator := "::".toList
    let ts := ["a::b".toList, "\"c\"".toList, "d:".toList]
    separator ≠ [] ∧ '"' ∉ separator ∧ ts ≠ [] ∧
      (∀ t ∈ ts.dropLast, needsQuote separator t = false → overlaps separator t = false) ∧
      fields separator (separator.intercalate (ts.map (field separator))) = ts ∧
      ∀ u, u ≠ [] → fields ", ".toList (", ".toList.intercalate (u.map (field ", ".toList))) = u := by
  intro separator ts
  have hread : ∀ t ∈ ts.dropLast, needsQuote separator t = false → overlaps separator t = false := by
    decide
  have hborder : ∀ x, x <+: ", ".toList → x <:+ ", ".toList → x = [] ∨ x = ", ".toList := by
    intro x hstart hend
    rcases List.prefix_cons_iff.1 hstart with rfl | ⟨y, rfl, hy⟩
    · exact .inl rfl
    · rcases List.prefix_cons_iff.1 hy with rfl | ⟨z, rfl, hz⟩
      · exact absurd hend (by decide)
      · exact .inr (by rw [List.prefix_nil.1 hz]; rfl)
  exact ⟨by decide, by decide, by decide, hread,
    ((fields_readable_iff (by decide) (by decide)).1 ts (by decide)).2 hread,
    (fields_readable_iff (by decide) (by decide)).2 hborder⟩

/-- A field that ends like the separator starts is not quoted, and is cut short. -/
theorem fields_misread :
    let separator := "::".toList
    let ts := ["a:".toList, "b".toList]
    2 ≤ separator.length ∧ (∀ c ∈ separator, c ≠ '"' ∧ c ≠ '\r' ∧ c ≠ '\n') ∧ ts ≠ [] ∧
      fields separator (separator.intercalate (ts.map (field separator))) =
        ["a".toList, ":b".toList] ∧
      fields separator (separator.intercalate (ts.map (field separator))) ≠ ts := by
  intro separator ts
  have hplain : ∀ c ∈ separator, c ≠ '"' ∧ c ≠ '\r' ∧ c ≠ '\n' := by simp [separator]
  have hread : fields separator (separator.intercalate (ts.map (field separator))) =
      ["a".toList, ":b".toList] := by decide
  refine ⟨by decide, hplain, by decide, hread, fun h => ?_⟩
  have hfirst : "a".toList = "a:".toList := (List.cons.inj (hread.symm.trans h)).1
  exact absurd hfirst (by decide)

end

end SqlConsole.Delimited

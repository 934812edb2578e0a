import Mathlib.Algebra.Group.Nat.Even
import Mathlib.Data.List.Basic
import SqlConsole.Proofs.Delimited.RoundTrip
import SqlConsole.Proofs.Delimited.Spans
import SqlConsole.Proofs.Text.LineEnd

/-! Nothing of a file is lost in its records: together with the line ends that were taken off them they
are the text of the file. -/
namespace SqlConsole.Delimited

open Text (anyLines isLineEnd lineBody lineEnd lineEnds)

theorem isBalanced_iff (s : List Char) : isBalanced s ↔ Even (s.count '"') := by
  simp [isBalanced, Nat.even_iff]

theorem dropLineEnd_of_not_lineEnd {s : List Char} (hs : ∀ c ∈ s.getLast?, ¬ isLineEnd c) :
    dropLineEnd s = s := by
  have hend {c : Char} {r : List Char} (hr : s.reverse = c :: r) : ¬ isLineEnd c :=
    hs c (by rw [← List.head?_reverse, hr]; rfl)
  have hchomp : Text.chomp s = s := by
    unfold Text.chomp
    split
    · next hr => exact absurd rfl (hend hr)
    · rfl
  rw [dropLineEnd, hchomp]
  split
  · next hr => exact absurd rfl (hend hr)
  · rfl

theorem dropLineEnd_return (s : List Char) : dropLineEnd (s ++ ['\r']) = s := by
  simp [dropLineEnd, Text.chomp]

theorem dropLineEnd_returnNewline (s : List Char) : dropLineEnd (s ++ ['\r', '\n']) = s := by
  simp [dropLineEnd, Text.chomp]

/-- What is dropped from lines of a text that stand together is the end of the last of them. -/
theorem dropLineEnd_flatten {s : List Char} {pre front post : List (List Char)} {last : List Char}
    (h : anyLines s = pre ++ (front ++ [last]) ++ post) :
    dropLineEnd (front ++ [last]).flatten = front.flatten ++ lineBody last := by
  have hmem : last ∈ anyLines s := by simp [h]
  have hbody : ∀ c ∈ (lineBody last).getLast?, ¬ isLineEnd c :=
    fun c hc => Text.not_lineEnd_of_mem_lineBody (List.mem_of_getLast? hc)
  have htext : (front ++ [last]).flatten = front.flatten ++ lineBody last ++ lineEnd last := by
    simp [Text.lineBody_append_lineEnd]
  have hlast := Text.lineBody_append_lineEnd last
  rw [htext]
  generalize lineBody last = body at hbody hlast
  have hend := Text.lineEnd_mem_lineEnds last hmem
  simp only [lineEnds, List.mem_cons, List.not_mem_nil, or_false] at hend
  rcases hend with hend | hend | hend | hend <;> rw [hend] at hlast ⊢
  · -- A line that ends with nothing has a body, and that ends with something else.
    have hne : body ≠ [] := by
      rintro rfl
      exact Text.ne_nil_of_mem_anyLines last hmem hlast.symm
    rw [List.append_nil]
    refine dropLineEnd_of_not_lineEnd fun c hc => hbody c ?_
    rwa [List.getLast?_append_of_ne_nil _ hne] at hc
  · refine dropLineEnd_concat fun hcr => ?_
    by_cases hne : body = []
    · subst hne
      have hsplit : anyLines s = (pre ++ front) ++ last :: post := by simp [h]
      refine Text.getLast?_ne_of_anyLines hsplit (by simp [← hlast]) ?_
      rw [List.append_nil] at hcr
      rw [List.flatten_append, List.getLast?_append, hcr]
      rfl
    · rw [List.getLast?_append_of_ne_nil _ hne] at hcr
      exact hbody '\r' hcr rfl
  · exact dropLineEnd_returnNewline _
  · exact dropLineEnd_return _

namespace Record

/-- The line end that was taken off a record of a text, which is that of its last line. -/
def ending (s : List Char) (r : Record) : List Char := lineEnd ((anyLines s).getD (r.line - 1) [])

/-- A record as the text has it. -/
def whole (s : List Char) (r : Record) : List Char := r.text ++ r.ending s

end Record

section
variable {s : List Char} {pre own front post : List (List Char)} {last : List Char}

theorem getElem?_anyLines (h : anyLines s = pre ++ (front ++ [last]) ++ post) :
    (anyLines s)[(pre ++ front).length]? = some last := by
  have hsplit : anyLines s = (pre ++ front) ++ last :: post := by simp [h]
  rw [hsplit, List.getElem?_append_right (Nat.le_refl _)]
  simp

theorem ending_eq (h : anyLines s = pre ++ (front ++ [last]) ++ post) (text : List Char) :
    Record.ending s ⟨pre.length + (front ++ [last]).length, text⟩ = lineEnd last := by
  have hindex : pre.length + (front ++ [last]).length - 1 = (pre ++ front).length := by simp
  rw [Record.ending, hindex, List.getD_eq_getElem?_getD, getElem?_anyLines h]
  rfl

/-- A record that is made of lines of the text. -/
theorem whole_eq (h : anyLines s = pre ++ own ++ post) (hne : own ≠ []) :
    Record.whole s ⟨pre.length + own.length, dropLineEnd own.flatten⟩ = own.flatten := by
  obtain ⟨front, last, rfl⟩ : ∃ front last, own = front ++ [last] :=
    ⟨own.dropLast, own.getLast hne, (List.dropLast_concat_getLast hne).symm⟩
  rw [Record.whole, ending_eq h, dropLineEnd_flatten h, List.append_assoc,
    Text.lineBody_append_lineEnd]
  simp

end

namespace Spans
variable {n : Nat} {s : List Char} {ls : List (List Char)} {rs rs' : List Record}

/-- Where the records are parted, so are the lines. -/
theorem of_append (h : Spans n ls (rs ++ rs')) :
    ∃ own after, ls = own ++ after ∧ Spans n own rs ∧ Spans (n + own.length) after rs' := by
  induction rs generalizing n ls with
  | nil => exact ⟨[], ls, rfl, .nil n, by simpa using h⟩
  | cons r rs ih =>
    cases h with
    | @cons _ first rest _ hne hopen hclosed h =>
      obtain ⟨own, after, rfl, hown, hafter⟩ := ih h
      refine ⟨first ++ own, after, by simp, .cons hne hopen ?_ hown,
        by simpa [Nat.add_assoc] using hafter⟩
      exact hclosed.imp_right fun h => (List.append_eq_nil_iff.1 h).1

theorem eq_nil (h : Spans n ls rs) (hls : ls = []) : rs = [] := by
  cases h with
  | nil => rfl
  | cons hne => exact absurd (List.append_eq_nil_iff.1 hls).1 hne

theorem flatMap_whole (pre post : List (List Char)) (h : Spans pre.length ls rs)
    (hs : anyLines s = pre ++ ls ++ post) : rs.flatMap (Record.whole s) = ls.flatten := by
  induction rs generalizing pre ls with
  | nil => cases h; rfl
  | cons r rs ih =>
    cases h with
    | @cons _ own after _ hne _ _ h =>
      rw [← List.length_append] at h
      have hown : anyLines s = pre ++ own ++ (after ++ post) := by simp [hs]
      rw [List.flatMap_cons, whole_eq hown hne, ih (pre ++ own) h (by simp [hs]), List.flatten_append]

theorem lt_line (h : Spans n ls rs) : ∀ r ∈ rs, n < r.line := by
  induction h with
  | nil => simp
  | @cons n own after rs hne _ _ _ ih =>
    have hpos := List.length_pos_iff.2 hne
    refine List.forall_mem_cons.2 ⟨?_, fun r hr => ?_⟩
    · show n < n + own.length
      omega
    · have := ih r hr
      omega

theorem pairwise_line (h : Spans n ls rs) : rs.Pairwise (·.line < ·.line) := by
  induction h with
  | nil => exact .nil
  | cons _ _ _ h ih => exact .cons h.lt_line ih

theorem line_getLast (h : Spans n ls rs) :
    (rs.getLast?.map Record.line).getD n = n + ls.length := by
  induction h with
  | nil => rfl
  | @cons n own after rs _ _ _ _ ih =>
    rw [List.length_append, ← Nat.add_assoc, ← ih, List.getLast?_cons]
    cases rs.getLast? <;> rfl

end Spans

/-- How a record stands in a text, with the records around it. -/
structure Record.StandsIn (s : List Char) (before : List Record) (r : Record) (after : List Record) :
    Prop where
  /-- The lines up to its number are those of the records up to it. -/
  lines : ((anyLines s).take r.line).flatten = (before ++ [r]).flatMap (whole s)
  /-- What was taken off is all of the line end that its last line has. -/
  lastLine : ∃ n body, r.line = n + 1 ∧ (anyLines s)[n]? = some (body ++ r.ending s) ∧
    ∀ c ∈ body, ¬ isLineEnd c
  ending : r.ending s ∈ lineEnds
  closed : after ≠ [] → Even (r.text.count '"')
  /-- At the end of a line inside the record its quotes are open. -/
  opened : ∀ p q k, r.whole s = p ++ q → p ≠ [] → q ≠ [] →
    ((anyLines s).take k).flatten = before.flatMap (whole s) ++ p → ¬ Even (p.count '"')

/-- Text that starts with a line and ends with one, short of the last of them. -/
private theorem exists_take {pre own post : List (List Char)} {p q : List Char} {k : Nat}
    (hown : own.flatten = p ++ q) (hp : p ≠ []) (hq : q ≠ [])
    (hk : ((pre ++ (own ++ post)).take k).flatten = pre.flatten ++ p) :
    ∃ m, 0 < m ∧ m < own.length ∧ p = (own.take m).flatten := by
  rcases Nat.lt_or_ge pre.length k with hlt | hle
  · obtain ⟨m, rfl⟩ := Nat.exists_eq_add_of_le hlt.le
    rw [List.take_length_add_append, List.flatten_append] at hk
    have hp' := List.append_cancel_left hk
    rcases Nat.lt_or_ge m own.length with hm | hm
    · rw [List.take_append_of_le_length hm.le] at hp'
      exact ⟨m, by omega, hm, hp'.symm⟩
    · -- All the lines are more than what was to be before `q`.
      rw [List.take_append, List.take_of_length_le hm, List.flatten_append, hown,
        List.append_assoc] at hp'
      exact absurd (List.append_eq_nil_iff.1 (List.append_right_eq_self.1 hp')).1 hq
  · have hpre : pre.flatten = (pre.take k).flatten ++ (pre.drop k).flatten := by
      rw [← List.flatten_append, List.take_append_drop]
    rw [List.take_append_of_le_length hle, hpre, List.append_assoc] at hk
    exact absurd (List.append_eq_nil_iff.1 (List.self_eq_append_right.1 hk)).2 hp

theorem isBalanced_of_mem_lineEnds : ∀ e ∈ lineEnds, isBalanced e := by decide

theorem standsIn {s : List Char} {before after : List Record} {r : Record}
    (h : records s = before ++ r :: after) : r.StandsIn s before after := by
  have hspans := spans_records s
  rw [h] at hspans
  obtain ⟨pre, rest, hlines, hbefore, hrest⟩ := hspans.of_append
  rw [Nat.zero_add] at hrest
  cases hrest with
  | @cons _ own post _ hne hopen hclosed hafter =>
    have hown : anyLines s = pre ++ own ++ post := by rw [hlines, List.append_assoc]
    have hwhole := whole_eq hown hne
    have hpre : before.flatMap (Record.whole s) = pre.flatten :=
      hbefore.flatMap_whole [] (own ++ post) hlines
    obtain ⟨front, last, rfl⟩ : ∃ front last, own = front ++ [last] :=
      ⟨own.dropLast, own.getLast hne, (List.dropLast_concat_getLast hne).symm⟩
    have hend : lineEnd last ∈ lineEnds := Text.lineEnd_mem_lineEnds (s := s) last (by simp [hlines])
    have hending := ending_eq hown (dropLineEnd (front ++ [last]).flatten)
    exact {
      lines := by
        rw [List.flatMap_append, hpre, List.flatMap_singleton, hwhole, hown, ← List.length_append,
          List.take_left, List.flatten_append]
      lastLine := by
        refine ⟨(pre ++ front).length, lineBody last, by simp [Nat.add_assoc], ?_, ?_⟩
        · rw [hending, Text.lineBody_append_lineEnd, getElem?_anyLines hown]
        · exact fun c => Text.not_lineEnd_of_mem_lineBody
      ending := by rwa [hending]
      closed := by
        intro hne'
        have hbalanced : isBalanced (front ++ [last]).flatten :=
          hclosed.resolve_right fun hpost => hne' (hafter.eq_nil hpost)
        rw [← hwhole, Record.whole, hending, isBalanced_append,
          isBalanced_of_mem_lineEnds _ hend] at hbalanced
        rw [← isBalanced_iff]
        simpa using hbalanced
      opened := by
        intro p q k hpq hp hq hk
        rw [hwhole] at hpq
        rw [hlines, hpre] at hk
        obtain ⟨m, hm, hlt, rfl⟩ := exists_take hpq hp hq hk
        rw [← isBalanced_iff, hopen m hm hlt]
        decide }

/-- The records of a file lose nothing: with their line ends they are its text, each one goes on only
as long as its quotes are open, and the numbers count the lines of the file. -/
theorem records_lossless (s : List Char) :
    (records s).flatMap (Record.whole s) = s ∧
    (∀ before r after, records s = before ++ r :: after → r.StandsIn s before after) ∧
    (records s).Pairwise (·.line < ·.line) ∧
    ((records s).getLast?.map Record.line).getD 0 = (anyLines s).length := by
  have hspans := spans_records s
  refine ⟨?_, fun before r after => standsIn, hspans.pairwise_line, ?_⟩
  · rw [hspans.flatMap_whole [] [] (by simp), Text.flatten_anyLines]
  · rw [hspans.line_getLast, Nat.zero_add]

/-- A line that a lone CR ends, quotes that are open behind a CR LF, and others that stay open. -/
theorem records_lossless_mixed :
    let s := "b\r\"a\r\n\"\n\"c\n".toList
    let first : Record := ⟨1, ['b']⟩
    let second : Record := ⟨3, "\"a\r\n\"".toList⟩
    let third : Record := ⟨4, ['"', 'c']⟩
    records s = [first] ++ second :: [third] ∧ second.StandsIn s [first] [third] ∧
      ¬ Even ("\"a\r\n".toList.count '"') ∧
      [first, second, third].flatMap (Record.whole s) = s ∧
      [first, second, third].Pairwise (·.line < ·.line) ∧ (anyLines s).length = 4 := by
  intro s first second third
  have hrecords : records s = [first] ++ second :: [third] := by decide
  obtain ⟨hwhole, hstands, hlines, hlast⟩ := records_lossless s
  have hsecond := hstands _ _ _ hrecords
  have hopen := hsecond.opened "\"a\r\n".toList ['"', '\n'] 2 (by decide) (by decide) (by decide)
    (by decide)
  rw [hrecords] at hwhole hlines hlast
  exact ⟨hrecords, hsecond, hopen, hwhole, hlines, hlast.symm⟩

end SqlConsole.Delimited

import Mathlib.Data.List.TakeWhile
import SqlConsole.Command.Token
import SqlConsole.Proofs.Text.Escape

/-! The words of a command line: how every list of words can be typed, and where words start. -/
namespace SqlConsole.Command

open Text (isBlank unescape)

/-- A character between double quotes: a backslash stands doubled, a double quote as its code. -/
def doubleQuotedChar (c : Char) : List Char :=
  if c = '\\' then ['\\', '\\'] else if c = '"' then ['\\', '0', '4', '2'] else [c]

def IsQuote (c : Char) : Prop := c = '\x27' ∨ c = '"'

/-- What a quote that opens a word makes of the text behind it. -/
def resolved (q : Char) (t : List Char) : List Char := if q = '"' then unescape t else t

/-- The ways to write a word: in single quotes as it is, in double quotes, and bare. -/
inductive Written : List Char → List Char → Prop
  | single {t : List Char} (hquote : '\x27' ∉ t) : Written ('\x27' :: (t ++ ['\x27'])) t
  | double (t : List Char) : Written ('"' :: (t.flatMap doubleQuotedChar ++ ['"'])) t
  | bare {c : Char} {t : List Char} (hquote : ¬ IsQuote c) (hblank : ∀ d ∈ c :: t, ¬ isBlank d)
      (hbackslash : '\\' ∉ c :: t) : Written (c :: t) (c :: t)

/-- Words that are written one behind the other. White space follows each of them that is not the
last of the text; there may be more before the words and behind them. -/
inductive Typed : List (List Char) → List Char → Prop
  | nil {s : List Char} (hblank : ∀ c ∈ s, isBlank c) : Typed [] s
  | cons {blanks piece t r : List Char} {ts : List (List Char)} (hblank : ∀ c ∈ blanks, isBlank c)
      (hpiece : Written piece t) (hrest : Typed ts r) (hapart : ∀ c ∈ r.head?, isBlank c) :
      Typed (t :: ts) (blanks ++ (piece ++ r))

/-- A word that ends on its line, the text it starts, and what follows it: a quoted word ends with
its quote, another one with the white space behind it. -/
inductive Ended : List Char → List Char → List Char → Prop
  | quoted {q : Char} {a : List Char} (hq : IsQuote q) (ha : q ∉ a) (r : List Char) :
      Ended (q :: (a ++ q :: r)) (resolved q a) r
  | bare {c b : Char} {a : List Char} (hc : ¬ IsQuote c) (ha : ∀ d ∈ c :: a, ¬ isBlank d)
      (hb : isBlank b) (r : List Char) : Ended (c :: (a ++ b :: r)) (unescape (c :: a)) r

/-- Behind these words of the text `s` another one starts, with the text `u`. -/
inductive Begins : List Char → List (List Char) → List Char → Prop
  | here {blanks r : List Char} {c : Char} (hblank : ∀ d ∈ blanks, isBlank d) (hc : ¬ isBlank c) :
      Begins (blanks ++ c :: r) [] (c :: r)
  | next {blanks s w r u : List Char} {ws : List (List Char)} (hblank : ∀ d ∈ blanks, isBlank d)
      (hword : Ended s w r) (hrest : Begins r ws u) : Begins (blanks ++ s) (w :: ws) u

theorem IsQuote.not_blank {c : Char} (h : IsQuote c) : ¬ isBlank c := by
  rcases h with rfl | rfl <;> decide

section UpTo
variable {stop : Char} {a : List Char}

theorem upTo_append (ha : stop ∉ a) (r : List Char) : upTo stop (a ++ stop :: r) = (a, r) := by
  induction a with
  | nil => simp [upTo]
  | cons c a ih =>
    have hc : c ≠ stop := (List.ne_of_not_mem_cons ha).symm
    rw [List.cons_append, upTo, if_neg hc, ih (List.not_mem_of_not_mem_cons ha)]

theorem upTo_of_not_mem (ha : stop ∉ a) : upTo stop a = (a, []) := by
  induction a with
  | nil => rfl
  | cons c a ih =>
    have hc : c ≠ stop := (List.ne_of_not_mem_cons ha).symm
    rw [upTo, if_neg hc, ih (List.not_mem_of_not_mem_cons ha)]

end UpTo

section Word
variable {q c : Char}

/-- Both quotes take the text up to the next one; they differ in what they make of it. -/
theorem word_quote (hq : IsQuote q) (r : List Char) :
    word q r = (resolved q (upTo q r).1, (upTo q r).2) := by
  rcases hq with rfl | rfl <;> rfl

theorem word_closed (hq : IsQuote q) {a : List Char} (ha : q ∉ a) (r : List Char) :
    word q (a ++ q :: r) = (resolved q a, r) := by rw [word_quote hq, upTo_append ha]

theorem word_unclosed (hq : IsQuote q) {t : List Char} (ht : q ∉ t) :
    word q t = (resolved q t, []) := by rw [word_quote hq, upTo_of_not_mem ht]

theorem word_bare (hc : ¬ IsQuote c) {a r : List Char} (ha : ∀ d ∈ c :: a, ¬ isBlank d)
    (hr : ∀ b ∈ r.head?, isBlank b) : word c (a ++ r) = (unescape (c :: a), r.drop 1) := by
  obtain ⟨hsingle, hdouble⟩ := not_or.1 hc
  have hall : ∀ d ∈ c :: a, (!isBlank d) = true := fun d hd => by simpa using ha d hd
  have hstop : r.takeWhile (fun c => !isBlank c) = [] ∧ r.dropWhile (fun c => !isBlank c) = r := by
    cases r with
    | nil => exact ⟨rfl, rfl⟩
    | cons b r => simp [hr b rfl]
  simp only [word, if_neg hsingle, if_neg hdouble]
  rw [← List.cons_append, List.takeWhile_append_of_pos hall, List.dropWhile_append_of_pos hall,
    hstop.1, hstop.2, List.append_nil]

end Word

section WordsUpTo
variable {n : Nat} {blanks : List Char}

theorem wordsUpTo_blanks (hblank : ∀ c ∈ blanks, isBlank c) (n : Nat) (s : List Char) :
    wordsUpTo n (blanks ++ s) = wordsUpTo n s := by
  cases n with
  | zero => rfl
  | succ n => rw [wordsUpTo, wordsUpTo, List.dropWhile_append_of_pos hblank]

theorem wordsUpTo_nil (n : Nat) : wordsUpTo n [] = [] := by cases n <;> rfl

theorem wordsUpTo_cons {c : Char} (hc : ¬ isBlank c) (n : Nat) (r : List Char) :
    wordsUpTo (n + 1) (c :: r) = (word c r).1 :: wordsUpTo n (word c r).2 := by
  rw [wordsUpTo, List.dropWhile_cons_of_neg hc]

/-- A white space character behind a word is dropped with it, and so would be the next ones. -/
theorem wordsUpTo_drop_blank {r : List Char} (hr : ∀ b ∈ r.head?, isBlank b) (n : Nat) :
    wordsUpTo n (r.drop 1) = wordsUpTo n r := by
  cases r with
  | nil => rfl
  | cons b r =>
    have hblank : ∀ c ∈ [b], isBlank c := by simpa using hr b rfl
    exact (wordsUpTo_blanks hblank n r).symm

theorem length_wordsUpTo_le (n : Nat) (s : List Char) : (wordsUpTo n s).length ≤ n := by
  induction n generalizing s with
  | zero => exact Nat.le_refl 0
  | succ n ih =>
    rw [wordsUpTo]
    split
    · exact Nat.zero_le _
    · exact Nat.succ_le_succ (ih _)

end WordsUpTo

section Double
variable (c : Char) (t : List Char)

theorem unescape_doubleQuotedChar (r : List Char) :
    unescape (doubleQuotedChar c ++ r) = c :: unescape r := by
  unfold doubleQuotedChar
  split_ifs with hbackslash hquote
  · subst hbackslash
    exact Text.unescape_escaped (by decide) r
  · subst hquote
    have hzero : Text.octalValue? '0' = some 0 := rfl
    have hfour : Text.octalValue? '4' = some 4 := rfl
    have htwo : Text.octalValue? '2' = some 2 := rfl
    exact Text.unescape_octal hzero hfour htwo r
  · exact Text.unescape_cons hbackslash r

theorem unescape_flatMap_doubleQuotedChar : unescape (t.flatMap doubleQuotedChar) = t := by
  induction t with
  | nil => rfl
  | cons c t ih => rw [List.flatMap_cons, unescape_doubleQuotedChar, ih]

theorem quote_not_mem_doubleQuoted : '"' ∉ t.flatMap doubleQuotedChar := by
  intro h
  obtain ⟨c, -, hc⟩ := List.mem_flatMap.1 h
  unfold doubleQuotedChar at hc
  split_ifs at hc with hbackslash hquote
  · exact absurd hc (by decide)
  · exact absurd hc (by decide)
  · exact hquote (List.mem_singleton.1 hc).symm

end Double

/-- A written word is read as itself, and the reading goes on with what is behind it. -/
theorem Written.word {piece t r : List Char} (h : Written piece t) (hr : ∀ b ∈ r.head?, isBlank b) :
    ∃ c s, piece ++ r = c :: s ∧ ¬ isBlank c ∧ (word c s).1 = t ∧
      ∀ n, wordsUpTo n (Command.word c s).2 = wordsUpTo n r := by
  cases h with
  | single hquote =>
    have hword := word_closed (q := '\x27') (.inl rfl) hquote r
    refine ⟨'\x27', t ++ '\x27' :: r, by simp, by decide, ?_, fun n => ?_⟩
    · rw [hword]
      rfl
    · rw [hword]
  | double =>
    have hword := word_closed (q := '"') (.inr rfl) (quote_not_mem_doubleQuoted t) r
    refine ⟨'"', t.flatMap doubleQuotedChar ++ '"' :: r, by simp, by decide, ?_, fun n => ?_⟩
    · rw [hword]
      exact unescape_flatMap_doubleQuotedChar t
    · rw [hword]
  | @bare c t hquote hblank hbackslash =>
    have hword := word_bare hquote hblank hr
    refine ⟨c, t ++ r, rfl, hblank c List.mem_cons_self, ?_, fun n => ?_⟩
    · rw [hword]
      exact Text.unescape_of_not_mem hbackslash
    · rw [hword]
      exact wordsUpTo_drop_blank hr n

theorem wordsUpTo_typed {ts : List (List Char)} {s : List Char} (h : Typed ts s) (n : Nat) :
    wordsUpTo n s = ts.take n := by
  induction h generalizing n with
  | @nil s hblank =>
    have hskip := wordsUpTo_blanks hblank n []
    rw [List.append_nil, wordsUpTo_nil] at hskip
    rw [hskip, List.take_nil]
  | @cons blanks piece t r ts hblank hpiece hrest hapart ih =>
    obtain ⟨c, s, hs, hc, hword, hgo⟩ := hpiece.word hapart
    cases n with
    | zero => rfl
    | succ n =>
      rw [wordsUpTo_blanks hblank, hs, wordsUpTo_cons hc, hword, hgo, ih, List.take_succ_cons]

/-- Every list of words can be typed: in double quotes each of them can. -/
theorem exists_typed (ts : List (List Char)) : ∃ s, Typed ts s := by
  have htyped : ∃ s, Typed ts s ∧ ∀ c ∈ s.head?, isBlank c := by
    induction ts with
    | nil => exact ⟨[], .nil (by simp), by simp⟩
    | cons t ts ih =>
      obtain ⟨r, hr, hapart⟩ := ih
      have hspace : ∀ c ∈ [' '], isBlank c := List.forall_mem_singleton.2 rfl
      exact ⟨_, .cons hspace (.double t) hr hapart, by
        intro c hc
        obtain rfl : ' ' = c := by simpa using hc
        decide⟩
  exact htyped.imp fun s hs => hs.1

/-- A text, parted where a property of its characters first fails. -/
theorem exists_span (p : Char → Bool) (s : List Char) :
    ∃ a b, s = a ++ b ∧ (∀ c ∈ a, p c) ∧ ∀ c ∈ b.head?, ¬ p c := by
  refine ⟨s.takeWhile p, s.dropWhile p, List.takeWhile_append_dropWhile.symm,
    fun c hc => List.mem_takeWhile_imp hc, fun c hc => ?_⟩
  have hstop := List.head?_dropWhile_not p s
  rw [Option.mem_def.1 hc] at hstop
  simpa using hstop

/-- A word that starts a text ends before it, or nothing follows it. -/
theorem ended_or_last {c : Char} (hc : ¬ isBlank c) (r : List Char) :
    Ended (c :: r) (word c r).1 (word c r).2 ∨ (word c r).2 = [] := by
  by_cases hq : IsQuote c
  · by_cases hmem : c ∈ r
    · obtain ⟨a, b, rfl, ha⟩ := List.eq_append_cons_of_mem hmem
      rw [word_closed hq ha]
      exact .inl (.quoted hq ha b)
    · rw [word_unclosed hq hmem]
      exact .inr rfl
  · obtain ⟨a, b, rfl, ha, hb⟩ := exists_span (fun c => !isBlank c) r
    have hinside : ∀ d ∈ c :: a, ¬ isBlank d :=
      List.forall_mem_cons.2 ⟨hc, fun d hd => by simpa using ha d hd⟩
    have hblank : ∀ d ∈ b.head?, isBlank d := fun d hd => by simpa using hb d hd
    rw [word_bare hq hinside hblank]
    cases b with
    | nil => exact .inr rfl
    | cons d b => exact .inl (.bare hq hinside (hblank d rfl) b)

theorem wordsUpTo_ended {s w r : List Char} (h : Ended s w r) (n : Nat) :
    wordsUpTo (n + 1) s = w :: wordsUpTo n r := by
  cases h with
  | @quoted q a hq ha => rw [wordsUpTo_cons hq.not_blank, word_closed hq ha]
  | @bare c b a hc ha hb =>
    rw [wordsUpTo_cons (ha c List.mem_cons_self), word_bare hc ha (by simpa using hb)]
    rfl

/-- Each word of a text starts somewhere in it. -/
theorem begins_wordsUpTo {n k : Nat} {s : List Char} (hk : k < (wordsUpTo n s).length) :
    ∃ u, Begins s ((wordsUpTo n s).take k) u := by
  induction n generalizing k s with
  | zero => simp [wordsUpTo] at hk
  | succ n ih =>
    obtain ⟨blanks, u, rfl, hblank, hstart⟩ := exists_span isBlank s
    rw [wordsUpTo_blanks hblank] at hk ⊢
    cases u with
    | nil => simp [wordsUpTo_nil] at hk
    | cons c r =>
      have hc : ¬ isBlank c := hstart c rfl
      rw [wordsUpTo_cons hc] at hk ⊢
      cases k with
      | zero => exact ⟨c :: r, .here hblank hc⟩
      | succ k =>
        have hk' := Nat.lt_of_succ_lt_succ hk
        rcases ended_or_last hc r with hended | hlast
        · obtain ⟨v, hv⟩ := ih hk'
          exact ⟨v, .next hblank hended hv⟩
        · simp [hlast, wordsUpTo_nil] at hk'

/-- A quote that opens a word and is not closed takes the rest of the text. -/
theorem wordsUpTo_unclosed {s u : List Char} {ws : List (List Char)} (h : Begins s ws u) {q : Char}
    {t : List Char} (hu : u = q :: t) (hq : IsQuote q) (ht : q ∉ t) {n : Nat} (hn : ws.length < n) :
    wordsUpTo n s = ws ++ [resolved q t] := by
  induction h generalizing n with
  | @here blanks r c hblank hc =>
    obtain ⟨rfl, rfl⟩ := List.cons.inj hu
    obtain ⟨n, rfl⟩ := Nat.exists_eq_succ_of_ne_zero (Nat.ne_of_gt hn)
    rw [wordsUpTo_blanks hblank, wordsUpTo_cons hc, word_unclosed hq ht, wordsUpTo_nil,
      List.nil_append]
  | @next blanks s w r u ws hblank hword _ ih =>
    obtain ⟨n, rfl⟩ := Nat.exists_eq_succ_of_ne_zero (Nat.ne_zero_of_lt hn)
    rw [wordsUpTo_blanks hblank, wordsUpTo_ended hword, ih hu (Nat.lt_of_succ_lt_succ hn),
      List.cons_append]

/-- Every list of words can be typed behind the dot, and what is typed so is read as that list, or as
its first fifty words. No line has more words than that; a quote that opens a word and is not closed
makes the rest of the line its last word. -/
theorem words_typed :
    (∀ ts, ∃ s, Typed ts s) ∧
    (∀ ts s, Typed ts s → words ('.' :: s) = ts.take 50) ∧
    ∀ line, (words line).length ≤ 50 ∧
      (∀ k < (words line).length, ∃ u, Begins (line.drop 1) ((words line).take k) u) ∧
      ∀ ws q t, Begins (line.drop 1) ws (q :: t) → IsQuote q → q ∉ t → ws.length < 50 →
        words line = ws ++ [resolved q t] :=
  ⟨exists_typed, fun _ _ h => wordsUpTo_typed h maxWords, fun _ =>
    ⟨length_wordsUpTo_le maxWords _, fun _ hk => begins_wordsUpTo hk,
      fun _ _ _ h hq ht hn => wordsUpTo_unclosed h rfl hq ht hn⟩⟩

/-- A line with a word of each kind, and one whose last word is not closed. -/
theorem words_typed_print :
    let typed := "print  'a \\ b'\t\"\\\\\\042\" ".toList
    let unclosed := "print \"a\\tb c".toList
    Typed ["print".toList, "a \\ b".toList, "\\\"".toList] typed ∧
      words ('.' :: typed) = ["print".toList, "a \\ b".toList, "\\\"".toList] ∧
    Begins unclosed ["print".toList] ('"' :: "a\\tb c".toList) ∧
      words ('.' :: unclosed) = ["print".toList, "a\tb c".toList] := by
  intro typed unclosed
  have hnone : ∀ c ∈ ([] : List Char), isBlank c := by simp
  have hbare : ∀ d ∈ 'p' :: "rint".toList, ¬ isBlank d := by simp [isBlank]
  have hprint : Written "print".toList "print".toList :=
    .bare (by rintro (h | h) <;> cases h) hbare (by simp : '\\' ∉ 'p' :: "rint".toList)
  have hsingle : Written "'a \\ b'".toList "a \\ b".toList :=
    .single (by simp : '\x27' ∉ "a \\ b".toList)
  have hdouble : Written "\"\\\\\\042\"".toList "\\\"".toList := .double "\\\"".toList
  have htyped : Typed ["print".toList, "a \\ b".toList, "\\\"".toList] typed :=
    .cons hnone hprint
      (.cons (by simp [isBlank] : ∀ c ∈ "  ".toList, isBlank c) hsingle
        (.cons (by simp [isBlank] : ∀ c ∈ "\t".toList, isBlank c) hdouble
          (.nil (by simp [isBlank] : ∀ c ∈ " ".toList, isBlank c)) (by rintro _ ⟨⟩; rfl))
        (by rintro _ ⟨⟩; rfl)) (by rintro _ ⟨⟩; rfl)
  have hended : Ended unclosed "print".toList "\"a\\tb c".toList :=
    .bare (by rintro (h | h) <;> cases h) hbare (by decide : isBlank ' ') _
  have hbegins : Begins unclosed ["print".toList] ('"' :: "a\\tb c".toList) :=
    .next hnone hended (.here hnone (by decide))
  have hquote : '"' ∉ "a\\tb c".toList := by simp
  exact ⟨htyped, words_typed.2.1 _ _ htyped, hbegins,
    (words_typed.2.2 ('.' :: unclosed)).2.2 _ _ _ hbegins (.inr rfl) hquote (by decide)⟩

end SqlConsole.Command

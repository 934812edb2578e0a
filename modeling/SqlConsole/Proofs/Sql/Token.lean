import SqlConsole.Sql.Literal
import SqlConsole.Statement.Token

/-! The tokens of SQL text, read one character at a time. What is in quotes is one token, in which a quote
that is written twice is one quote. -/
namespace SqlConsole.Sql
open Statement (isSpace isWordChar)

inductive Token where
  /-- A keyword, a bare name, digits or a numbered parameter. -/
  | word (w : List Char)
  /-- Text in single quotes. -/
  | literal (s : List Char)
  /-- A name in double quotes. -/
  | name (s : List Char)
  /-- Two bars. -/
  | concat
  /-- A character that stands for itself. -/
  | mark (c : Char)
  deriving DecidableEq, Repr

/-- Where in the text a reading stands. What it has of a token is in reverse. -/
inductive Reading where
  | between
  | word (w : List Char)
  | quoted (q : Char) (s : List Char)
  /-- Behind a quote, which ends the token unless it comes twice. -/
  | closing (q : Char) (s : List Char)
  | bar
  | dash
  | slash
  | lineComment
  | blockComment
  /-- Behind a star in a block comment. -/
  | star
  /-- In a blob, in brackets or in backquotes, none of which are read. -/
  | stuck
  deriving DecidableEq, Repr

def quotation (q : Char) (s : List Char) : Token := if q = '"' then .name s else .literal s

namespace Reading

/-- What a character does that belongs to what is being read. -/
def goOn? : Reading → Char → Option (List Token × Reading)
  | between, _ => none
  | word w, c =>
    if isWordChar c then some ([], word (c :: w))
    else if c = '\x27' ∧ (w = ['x'] ∨ w = ['X']) then some ([], stuck)
    else none
  | quoted q s, c => some ([], if c = q then closing q s else quoted q (c :: s))
  | closing q s, c => if c = q then some ([], quoted q (c :: s)) else none
  | bar, c => if c = '|' then some ([.concat], between) else none
  | dash, c => if c = '-' then some ([], lineComment) else none
  | slash, c => if c = '*' then some ([], blockComment) else none
  | lineComment, c => some ([], if c = '\n' then between else lineComment)
  | blockComment, c => some ([], if c = '*' then star else blockComment)
  | star, c => some ([], if c = '/' then between else if c = '*' then star else blockComment)
  | stuck, _ => some ([], stuck)

/-- The token that is read where nothing more belongs to it. -/
def settled : Reading → List Token
  | word w => [.word w.reverse]
  | closing q s => [quotation q s.reverse]
  | bar => [.mark '|']
  | dash => [.mark '-']
  | slash => [.mark '/']
  | _ => []

/-- What a character starts. -/
def start (c : Char) : List Token × Reading :=
  if isSpace c then ([], between)
  else if isWordChar c || c == '?' then ([], word [c])
  else match c with
    | '\x27' => ([], quoted c [])
    | '"' => ([], quoted c [])
    | '|' => ([], bar)
    | '-' => ([], dash)
    | '/' => ([], slash)
    | '[' => ([], stuck)
    | '\x60' => ([], stuck)
    | _ => ([.mark c], between)

def step (r : Reading) (c : Char) : List Token × Reading :=
  match r.goOn? c with
  | some p => p
  | none => (r.settled ++ (start c).1, (start c).2)

def scan : Reading → List Char → List Token × Reading
  | r, [] => ([], r)
  | r, c :: s =>
    let (ts, next) := r.step c
    let (us, last) := next.scan s
    (ts ++ us, last)

/-- What the end of the text comes to. In quotes and in a block comment it may not stand. -/
def finish? : Reading → Option (List Token)
  | quoted _ _ => none
  | blockComment => none
  | star => none
  | stuck => none
  | r => some r.settled

theorem scan_append (r : Reading) (s t : List Char) :
    r.scan (s ++ t) = ((r.scan s).1 ++ ((r.scan s).2.scan t).1, ((r.scan s).2.scan t).2) := by
  induction s generalizing r with
  | nil => rfl
  | cons c s ih => simp only [List.cons_append, scan, ih, List.append_assoc]

/-- A character that does not belong to what is being read is read as between tokens. -/
theorem scan_settled {r : Reading} {c : Char} (h : r.goOn? c = none) (s : List Char) :
    r.scan (c :: s) = (r.settled ++ (between.scan (c :: s)).1, (between.scan (c :: s)).2) := by
  have hstart : r.step c = (r.settled ++ (start c).1, (start c).2) := by simp only [step, h]
  have hbetween : between.step c = start c := by simp [step, goOn?, settled]
  simp only [scan, hstart, hbetween, List.append_assoc]

/-- Quotes that are written twice do not end what they are in. -/
theorem scan_double (q : Char) (s held : List Char) :
    (quoted q held).scan (Text.double q s) = ([], quoted q (s.reverse ++ held)) := by
  induction s generalizing held with
  | nil => rfl
  | cons c s ih =>
    rw [Text.double_cons, List.reverse_cons, List.append_assoc, List.singleton_append]
    split
    · next hc =>
      have htwice : (quoted q held).scan [q, q] = ([], quoted q (q :: held)) := by
        simp [scan, step, goOn?]
      rw [scan_append, htwice, ih, hc]
      rfl
    · next hc =>
      have honce : (quoted q held).scan [c] = ([], quoted q (c :: held)) := by
        simp [scan, step, goOn?, hc]
      rw [scan_append, honce, ih]
      rfl

theorem scan_enclose {q : Char} (hq : q = '\x27' ∨ q = '"') (s : List Char) :
    between.scan (Text.enclose q s) = ([], closing q s.reverse) := by
  have hopen : between.scan [q] = ([], quoted q []) := by
    rcases hq with rfl | rfl <;> rfl
  have hclose : (quoted q s.reverse).scan [q] = ([], closing q s.reverse) := by
    simp [scan, step, goOn?]
  rw [Text.enclose, ← List.singleton_append, List.append_assoc, scan_append, hopen, scan_append,
    scan_double, List.append_nil, hclose]
  rfl

end Reading

/-- The text comes to these tokens, whatever follows it. -/
def Reads (s : List Char) (ts : List Token) : Prop := Reading.between.scan s = (ts, .between)

instance (s : List Char) (ts : List Token) : Decidable (Reads s ts) :=
  inferInstanceAs (Decidable (_ = _))

/-- The tokens of a whole text, if all of it can be read. -/
def tokens? (s : List Char) : Option (List Token) :=
  (Reading.between.scan s).2.finish?.map ((Reading.between.scan s).1 ++ ·)

section Reads
variable {s t : List Char} {ts us : List Token} {α : Type}

theorem Reads.nil : Reads [] [] := rfl

theorem Reads.append (hs : Reads s ts) (ht : Reads t us) : Reads (s ++ t) (ts ++ us) := by
  rw [Reads, Reading.scan_append, hs, ht]

theorem Reads.append_append {u : List Char} (hs : Reads s ts) (ht : Reads (t ++ u) us) :
    Reads (s ++ t ++ u) (ts ++ us) := by
  rw [List.append_assoc]
  exact hs.append ht

theorem Reads.intercalate {separator : List Char} {read : List Token} {text : α → List Char}
    {reads : α → List Token} {l : List α} (hseparator : Reads separator read)
    (h : ∀ a ∈ l, Reads (text a) (reads a)) :
    Reads (separator.intercalate (l.map text)) (read.intercalate (l.map reads)) := by
  induction l with
  | nil => exact .nil
  | cons a l ih =>
    obtain ⟨ha, hl⟩ := List.forall_mem_cons.1 h
    cases l with
    | nil => simpa using ha
    | cons b l =>
      rw [List.map_cons, List.map_cons, List.map_cons, List.map_cons, List.intercalate_cons_cons,
        List.intercalate_cons_cons]
      exact (ha.append hseparator).append (ih hl)

/-- Quoted text is one token, where something other than a further quote stands behind it. -/
theorem Reads.enclose {q : Char} (hq : q = '\x27' ∨ q = '"') (hbehind : t.head?.any (· != q)) (s : List Char)
    (h : Reads t ts) : Reads (Text.enclose q s ++ t) (quotation q s :: ts) := by
  obtain ⟨c, t, rfl⟩ := List.exists_cons_of_ne_nil (l := t) (by rintro rfl; cases hbehind)
  have hgoOn : (Reading.closing q s.reverse).goOn? c = none := if_neg (by simpa using hbehind)
  rw [Reads, Reading.scan_append, Reading.scan_enclose hq, Reading.scan_settled hgoOn, h]
  simp [Reading.settled]

theorem tokens?_append (hs : Reads s ts) (ht : tokens? t = some us) :
    tokens? (s ++ t) = some (ts ++ us) := by
  obtain ⟨vs, hend, hvs⟩ := Option.map_eq_some_iff.1 ht
  rw [tokens?, Reading.scan_append, hs, hend, ← hvs, Option.map_some, List.append_assoc]

/-- A further text, with a blank in front of it. -/
theorem tokens?_append_blank {u : List Char} (hs : Reads (s ++ [' ']) ts) (hu : u = ' ' :: t)
    (ht : tokens? t = some us) : tokens? (s ++ u) = some (ts ++ us) := by
  rw [hu, List.append_cons]
  exact tokens?_append hs ht

theorem tokens?_enclose {q : Char} (hq : q = '\x27' ∨ q = '"') (s : List Char) :
    tokens? (Text.enclose q s) = some [quotation q s] := by
  simp [tokens?, Reading.scan_enclose hq, Reading.finish?, Reading.settled]

/-- A name in double quotes is read back as it is. -/
theorem tokens?_quoteIdentifier (name : List Char) : tokens? (quoteIdentifier name) = some [.name name] :=
  tokens?_enclose (.inr rfl) name

end Reads

example : tokens? "SELECT 'it''s' || \"a\"\"b\" -- c".toList =
    some [.word "SELECT".toList, .literal "it's".toList, .concat, .name "a\"b".toList] := by decide

end SqlConsole.Sql

import SqlConsole.Proofs.Sql.Numeral

/-! Reading SQL literals: a quote that is written twice inside quotes is one quote, and `X` in front of
quotes makes a blob of hexadecimal digits. What values are written as reads back. -/
namespace SqlConsole.Sql
open Statement (Inert isWordChar)

inductive Literal where
  | null
  | integer (n : Int)
  /-- A numeric literal that is not just digits, as it is written. -/
  | decimal (text : List Char)
  | text (s : List Char)
  | blob (bytes : List UInt8)
  deriving DecidableEq, Repr

/-- The text inside quotes, from behind the first of them, and what follows the last. -/
def unquote? (q : Char) : List Char → Option (List Char × List Char)
  | [] => none
  | [c] => if c = q then some ([], []) else none
  | c :: d :: r =>
    if c = q then
      if d = q then (unquote? q r).map fun (s, rest) => (q :: s, rest)
      else some ([], d :: r)
    else (unquote? q (d :: r)).map fun (s, rest) => (c :: s, rest)

def hexValue? (c : Char) : Option Nat := "0123456789abcdef".toList.findIdx? (· == c.toLower)

/-- The bytes of a blob, from behind the first quote, and what follows the last. -/
def hexBytes? : List Char → Option (List UInt8 × List Char)
  | [] => none
  | [c] => if c = '\x27' then some ([], []) else none
  | c :: d :: r =>
    if c = '\x27' then some ([], d :: r)
    else
      match hexValue? c, hexValue? d with
      | some m, some n =>
        (hexBytes? r).map fun (bytes, rest) => (UInt8.ofNat (16 * m + n) :: bytes, rest)
      | _, _ => none

/-- The value of digits, which may have a sign. -/
def wholeNumber : List Char → Int
  | '-' :: r => -(Nat.ofDigitChars 10 r 0 : Nat)
  | '+' :: r => (Nat.ofDigitChars 10 r 0 : Nat)
  | r => (Nat.ofDigitChars 10 r 0 : Nat)

/-- A literal without quotes. -/
def bareLiteral? (s : List Char) : Option Literal :=
  if isNumber s then
    if s.all fun c => c.isDigit || c == '+' || c == '-' then some (.integer (wholeNumber s))
    else some (.decimal s)
  else if s.map Char.toUpper = ['N', 'U', 'L', 'L'] then some .null
  else none

def literal? : List Char → Option (Literal × List Char)
  | '\x27' :: r => (unquote? '\x27' r).map fun (s, rest) => (.text s, rest)
  | 'X' :: '\x27' :: r => (hexBytes? r).map fun (bytes, rest) => (.blob bytes, rest)
  | 'x' :: '\x27' :: r => (hexBytes? r).map fun (bytes, rest) => (.blob bytes, rest)
  | s => (bareLiteral? (s.takeWhile isBare)).map fun l => (l, s.dropWhile isBare)

/-- Literals with commas between them, at most as many as the first argument, up to a closing
parenthesis. -/
def literals? : Nat → List Char → Option (List Literal × List Char)
  | 0, _ => none
  | n + 1, s =>
    match literal? s with
    | some (l, ',' :: r) => (literals? n r).map fun (ls, rest) => (l :: ls, rest)
    | some (l, ')' :: r) => some ([l], r)
    | _ => none

/-- The literal says what the value is. Of a floating point value it says a decimal. -/
inductive Literal.Denotes : Literal → Value → Prop where
  | null : Denotes .null .null
  | integer (n : Int) : Denotes (.integer n) (.integer n)
  | decimal {t : List Char} (x : Real) (hn : isNumber t) (hp : '.' ∈ t) : Denotes (.decimal t) (.real x)
  | text (s : String) : Denotes (.text s.toList) (.text s)
  | blob (bytes : List UInt8) : Denotes (.blob bytes) (.blob bytes)

/-- A floating point value is neither infinite nor no number. -/
def Value.IsFinite : Value → Prop
  | .real x => ∃ num den, x.magnitude = .finite num den
  | _ => True

private theorem unquote?_cons {q c : Char} (hc : c ≠ q) {t : List Char} (ht : t ≠ []) :
    unquote? q (c :: t) = (unquote? q t).map fun (s, rest) => (c :: s, rest) := by
  obtain ⟨d, r, rfl⟩ := List.exists_cons_of_ne_nil ht
  rw [unquote?, if_neg hc]

/-- Quotes that are written twice are read once. -/
theorem unquote?_double {q : Char} (s : List Char) {rest : List Char} (hrest : rest.head? ≠ some q) :
    unquote? q (Text.double q s ++ q :: rest) = some (s, rest) := by
  induction s with
  | nil =>
    cases rest with
    | nil => simp [unquote?]
    | cons d r =>
      have hd : d ≠ q := fun h => hrest (congrArg some h)
      simp [unquote?, hd]
  | cons c s ih =>
    rw [Text.double_cons]
    split
    · next hc =>
      subst hc
      show unquote? c (c :: c :: (Text.double c s ++ c :: rest)) = _
      rw [unquote?, if_pos rfl, if_pos rfl, ih]
      rfl
    · next hc =>
      show unquote? q (c :: (Text.double q s ++ q :: rest)) = _
      rw [unquote?_cons hc (by simp), ih]
      rfl

theorem hexDigit_cases {n : Nat} (h : n < 16) :
    hexValue? (hexDigit n) = some n ∧ isBare (hexDigit n) := by
  have hall : ∀ m ∈ List.range 16, hexValue? (hexDigit m) = some m ∧ isBare (hexDigit m) := by
    decide
  exact hall n (List.mem_range.2 h)

theorem isBare_hex (bytes : List UInt8) : ∀ c ∈ hex bytes, isBare c := by
  intro c hc
  obtain ⟨b, -, hb⟩ := List.mem_flatMap.1 hc
  have hlt : b.toNat < 256 := b.toNat_lt_size
  simp only [List.mem_cons, List.not_mem_nil, or_false] at hb
  rcases hb with rfl | rfl
  · exact (hexDigit_cases (by omega)).2
  · exact (hexDigit_cases (by omega)).2

/-- A character that is not part of bare literals is none of theirs. -/
theorem not_mem_of_isBare {s : List Char} (hs : ∀ c ∈ s, isBare c) {x : Char}
    (hx : isBare x = false) : x ∉ s := by
  intro h
  rw [hs x h] at hx
  cases hx

theorem hexBytes?_hex (bytes : List UInt8) (rest : List Char) :
    hexBytes? (hex bytes ++ '\x27' :: rest) = some (bytes, rest) := by
  induction bytes with
  | nil => cases rest <;> simp [hex, hexBytes?]
  | cons b bytes ih =>
    have hb : b.toNat < 256 := b.toNat_lt_size
    obtain ⟨hhigh, hbare⟩ := hexDigit_cases (n := b.toNat / 16) (by omega)
    obtain ⟨hlow, -⟩ := hexDigit_cases (n := b.toNat % 16) (by omega)
    have hquote : hexDigit (b.toNat / 16) ≠ '\x27' := by
      intro h
      rw [h] at hbare
      cases hbare
    show hexBytes? (hexDigit (b.toNat / 16) :: hexDigit (b.toNat % 16) ::
      (hex bytes ++ '\x27' :: rest)) = _
    rw [hexBytes?, if_neg hquote, hhigh, hlow]
    simp only [ih, Option.map_some]
    rw [show 16 * (b.toNat / 16) + b.toNat % 16 = b.toNat by omega, UInt8.ofNat_toNat]

theorem wholeNumber_digits {s : List Char} (hs : Digits s) :
    wholeNumber s = (Nat.ofDigitChars 10 s 0 : Nat) := by
  obtain ⟨c, m, rfl, hc⟩ := exists_digit (.inl hs)
  unfold wholeNumber
  split
  · next h =>
    obtain rfl := (List.cons.inj h).1
    exact absurd hc (by decide)
  · next h =>
    obtain rfl := (List.cons.inj h).1
    exact absurd hc (by decide)
  · rfl

theorem wholeNumber_integerText (n : Int) : wholeNumber (integerText n) = n := by
  cases n with
  | ofNat n =>
    show wholeNumber (Nat.toDigits 10 n) = n
    rw [wholeNumber_digits (digits_toDigits n), Nat.ofDigitChars_ten_toDigits]
  | negSucc n =>
    show -((Nat.ofDigitChars 10 (Nat.toDigits 10 (n + 1)) 0 : Nat) : Int) = _
    rw [Nat.ofDigitChars_ten_toDigits]
    rfl

theorem bareLiteral?_integerText (n : Int) :
    bareLiteral? (integerText n) = some (.integer n) := by
  have hdigits (m : Nat) :
      (Nat.toDigits 10 m).all (fun c => c.isDigit || c == '+' || c == '-') := by
    simpa using fun c hc => Or.inl (Or.inl ((digits_toDigits m).2 c hc))
  have hall : (integerText n).all fun c => c.isDigit || c == '+' || c == '-' := by
    cases n with
    | ofNat n => exact hdigits n
    | negSucc n => simpa [integerText] using hdigits (n + 1)
  rw [bareLiteral?, if_pos (isNumeral_integerText n).isNumber, if_pos hall, wholeNumber_integerText]

theorem bareLiteral?_decimal {s : List Char} (hs : IsNumeral s) (hp : '.' ∈ s) :
    bareLiteral? s = some (.decimal s) := by
  have hall : ¬ s.all fun c => c.isDigit || c == '+' || c == '-' := fun h =>
    absurd (List.all_eq_true.1 h '.' hp) (by decide)
  rw [bareLiteral?, if_pos hs.isNumber, if_neg hall]

/-- What follows a literal in a list. -/
def Follows (rest : List Char) : Prop := ∃ c r, rest = c :: r ∧ (c = ',' ∨ c = ')')

private theorem isBare_of_follows {rest : List Char} (h : Follows rest) :
    rest.takeWhile isBare = [] ∧ rest.dropWhile isBare = rest := by
  obtain ⟨c, r, rfl, hc⟩ := h
  rcases hc with rfl | rfl <;> exact ⟨rfl, rfl⟩

private theorem literal?_bare {s rest : List Char} {l : Literal} (hs : ∀ c ∈ s, isBare c)
    (hx : ∀ c ∈ s.head?, c ≠ 'X' ∧ c ≠ 'x') (hl : bareLiteral? s = some l) (hrest : Follows rest) :
    literal? (s ++ rest) = some (l, rest) := by
  have hhead : ∀ c ∈ (s ++ rest).head?, c ≠ '\x27' ∧ c ≠ 'X' ∧ c ≠ 'x' := by
    intro c hc
    cases s with
    | nil =>
      obtain ⟨d, r, rfl, hd⟩ := hrest
      obtain rfl : d = c := Option.some.inj hc
      rcases hd with rfl | rfl <;> decide
    | cons d s =>
      obtain rfl : d = c := Option.some.inj hc
      refine ⟨?_, hx d rfl⟩
      rintro rfl
      exact absurd (hs _ List.mem_cons_self) (by decide)
  obtain ⟨htake, hdrop⟩ := isBare_of_follows hrest
  unfold literal?
  split
  · next h => exact absurd rfl (hhead '\x27' (by rw [h]; rfl)).1
  · next h => exact absurd rfl (hhead 'X' (by rw [h]; rfl)).2.1
  · next h => exact absurd rfl (hhead 'x' (by rw [h]; rfl)).2.2
  · rw [List.takeWhile_append_of_pos hs, List.dropWhile_append_of_pos hs, htake, hdrop,
      List.append_nil, hl]
    rfl

private theorem literal?_numeral {s rest : List Char} {l : Literal} (hs : IsNumeral s)
    (hl : bareLiteral? s = some l) (hrest : Follows rest) :
    literal? (s ++ rest) = some (l, rest) := by
  refine literal?_bare hs.isBare (fun c hc => ?_) hl hrest
  have hdigit {t : List Char} (ht : Digits t ∨ IsDecimal t) (hc : c ∈ t.head?) :
      c ≠ 'X' ∧ c ≠ 'x' := by
    obtain ⟨d, m, rfl, hd⟩ := exists_digit ht
    obtain rfl : d = c := Option.some.inj hc
    constructor <;> rintro rfl <;> exact absurd hd (by decide)
  cases hs with
  | whole h => exact hdigit (.inl h) hc
  | decimal h => exact hdigit (.inr h) hc
  | negative h =>
    obtain rfl : '-' = c := Option.some.inj hc
    decide

theorem isNumeral_text {x : Real} {num den : Nat} (h : x.magnitude = .finite num den) :
    IsNumeral x.text ∧ '.' ∈ x.text := by
  obtain ⟨t, ht, hx | hx⟩ := exists_text_eq h <;> rw [hx]
  · exact ⟨.decimal ht, ht.mem_point⟩
  · exact ⟨.negative (.inr ht), List.mem_cons_of_mem '-' ht.mem_point⟩

theorem blob_literal (bytes : List UInt8) :
    (Value.blob bytes).literal = 'X' :: Text.enclose '\x27' (hex bytes) := by
  have hdouble {s : List Char} (hs : '\x27' ∉ s) : Text.double '\x27' s = s := by
    induction s with
    | nil => rfl
    | cons c s ih =>
      obtain ⟨hc, hs⟩ := not_or.1 (List.mem_cons.not.1 hs)
      rw [Text.double_cons, if_neg (Ne.symm hc), ih hs]
      rfl
  rw [Text.enclose, hdouble (not_mem_of_isBare (isBare_hex bytes) (by decide))]
  rfl

/-- What a value is written as reads back, where a list goes on or ends behind it. -/
theorem literal?_literal {v : Value} (hv : v.IsFinite) {rest : List Char} (hrest : Follows rest) :
    ∃ l, literal? (v.literal ++ rest) = some (l, rest) ∧ l.Denotes v := by
  have hquote : rest.head? ≠ some '\x27' := by
    obtain ⟨c, r, rfl, hc⟩ := hrest
    rcases hc with rfl | rfl <;> simp
  cases v with
  | null =>
    have hbare : ∀ c ∈ "NULL".toList, isBare c := List.all_eq_true.mp (by decide)
    have hhead : ∀ c ∈ "NULL".toList.head?, c ≠ 'X' ∧ c ≠ 'x' := by
      rintro _ ⟨rfl⟩
      decide
    exact ⟨.null, literal?_bare hbare hhead (by decide) hrest, .null⟩
  | integer n =>
    exact ⟨.integer n, literal?_numeral (isNumeral_integerText n) (bareLiteral?_integerText n) hrest,
      .integer n⟩
  | real x =>
    obtain ⟨num, den, hx⟩ := hv
    obtain ⟨hnumeral, hpoint⟩ := isNumeral_text hx
    exact ⟨.decimal x.text, literal?_numeral hnumeral (bareLiteral?_decimal hnumeral hpoint) hrest,
      .decimal x hnumeral.isNumber hpoint⟩
  | text s =>
    refine ⟨.text s.toList, ?_, .text s⟩
    have htext : (Value.text s).literal ++ rest =
        '\x27' :: (Text.double '\x27' s.toList ++ '\x27' :: rest) := by
      simp [Value.literal, quoteString, Text.enclose]
    rw [htext, literal?, unquote?_double s.toList hquote]
    rfl
  | blob bytes =>
    refine ⟨.blob bytes, ?_, .blob bytes⟩
    have htext : (Value.blob bytes).literal ++ rest =
        'X' :: '\x27' :: (hex bytes ++ '\x27' :: rest) := by
      simp [Value.literal]
    rw [htext, literal?, hexBytes?_hex]
    rfl

/-- A literal ends no statement. -/
theorem inert_literal {v : Value} (hv : v.IsFinite) {rest : List Char} (hrest : Follows rest) :
    Inert v.literal rest := by
  have hword : ∀ c ∈ rest.head?, isWordChar c = false := by
    obtain ⟨c, r, rfl, hc⟩ := hrest
    rcases hc with rfl | rfl <;> simp [isWordChar]
  cases v with
  | null => exact .word (by decide) (List.all_eq_true.mp (by decide)) hword
  | integer n => exact (isNumeral_integerText n).inert hword
  | real x =>
    obtain ⟨num, den, hx⟩ := hv
    exact (isNumeral_text hx).1.inert hword
  | text s => exact .enclose s.toList rest
  | blob bytes =>
    rw [blob_literal, ← List.singleton_append]
    refine .append (.word (by decide) (List.all_eq_true.mp (by decide)) ?_)
      (.enclose (hex bytes) rest)
    simp [Text.enclose, isWordChar]

end SqlConsole.Sql

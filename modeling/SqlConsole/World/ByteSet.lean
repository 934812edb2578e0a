import SqlConsole.Text.Utf8

/-! Bytes listed by a text: single ones, ranges such as a-z, classes such as [:alpha:], single bytes
in the form [=a=], and repetitions such as [a*3]. -/
namespace SqlConsole.World

/-- Classes of bytes, which hold ASCII only. -/
inductive ByteClass where
  | alnum
  | alpha
  | blank
  | cntrl
  | digit
  | graph
  | lower
  | print
  | punct
  | space
  | upper
  | xdigit
  deriving DecidableEq, Repr

namespace ByteClass

def named : List (String × ByteClass) :=
  [("alnum", alnum), ("alpha", alpha), ("blank", blank), ("cntrl", cntrl), ("digit", digit),
   ("graph", graph), ("lower", lower), ("print", print), ("punct", punct), ("space", space),
   ("upper", upper), ("xdigit", xdigit)]

def holds (k : ByteClass) (n : Nat) : Bool :=
  let between (a b : Nat) : Bool := a ≤ n && n ≤ b
  let isDigit := between 48 57
  let isUpper := between 65 90
  let isLower := between 97 122
  match k with
  | alnum => isDigit || isUpper || isLower
  | alpha => isUpper || isLower
  | blank => n == 32 || n == 9
  | cntrl => n < 32 || n == 127
  | digit => isDigit
  | graph => between 33 126
  | lower => isLower
  | print => between 32 126
  | punct => between 33 126 && !(isDigit || isUpper || isLower)
  | space => n == 32 || between 9 13
  | upper => isUpper
  | xdigit => isDigit || between 65 70 || between 97 102

/-- Upper and lower case, which stand for each other in a replacement. -/
def isCase (k : ByteClass) : Bool := k == upper || k == lower

end ByteClass

def allBytes : List UInt8 := (List.range 256).map UInt8.ofNat

inductive ByteItem where
  | single (b : UInt8)
  | span (low high : UInt8)
  | members (k : ByteClass)
  /-- All bytes that count as the same one, which is none but itself. -/
  | alike (b : UInt8)
  | repeated (b : UInt8) (count : Nat)
  /-- As many times as there is room. -/
  | filling (b : UInt8)
  deriving DecidableEq, Repr

namespace ByteItem

/-- The bytes of a part; `room` of them where it fills up. -/
def bytes (room : Nat) : ByteItem → List UInt8
  | single b => [b]
  | span low high => allBytes.filter fun b => low ≤ b && b ≤ high
  | members k => allBytes.filter fun b => k.holds b.toNat
  | alike b => [b]
  | repeated b n => List.replicate n b
  | filling b => List.replicate room b

def isClass : ByteItem → Bool
  | members _ => true
  | _ => false

def isFilling : ByteItem → Bool
  | filling _ => true
  | _ => false

end ByteItem

/-- A byte of a text, and whether it is one that has a meaning of its own only. -/
structure Symbol where
  byte : UInt8
  escaped : Bool := false
  deriving DecidableEq, Repr

def Symbol.is (s : Symbol) (c : Char) : Bool := s.byte.toNat == c.toNat && !s.escaped

private def octal? (b : UInt8) : Option Nat :=
  if 48 ≤ b ∧ b ≤ 55 then some (b.toNat - 48) else none

private def letterEscapes : List (Char × Nat) :=
  [('a', 7), ('b', 8), ('f', 12), ('n', 10), ('r', 13), ('t', 9), ('v', 11)]

/-- The code of up to three octal digits, as long as it is that of a byte, and what follows them. -/
private def octalCode (n : Nat) : Nat → List UInt8 → Nat × List UInt8
  | 0, s => (n, s)
  | _, [] => (n, [])
  | digits + 1, b :: r =>
    match octal? b with
    | some d => if n * 8 + d < 256 then octalCode (n * 8 + d) digits r else (n, b :: r)
    | none => (n, b :: r)

/-- The symbols of a text, where a backslash takes the meaning from what follows it or makes another
byte of it. `fuel` is the length of the text. -/
private def symbolsFrom : (fuel : Nat) → List UInt8 → List Symbol
  | 0, _ => []
  | _, [] => []
  | _, [b] => [{ byte := b }]
  | fuel + 1, b :: c :: r =>
    if b ≠ 92 then { byte := b } :: symbolsFrom fuel (c :: r)
    else
      match octal? c, letterEscapes.lookup (Char.ofNat c.toNat) with
      | some _, _ =>
        let (n, rest) := octalCode 0 3 (c :: r)
        ⟨UInt8.ofNat n, true⟩ :: symbolsFrom fuel rest
      | none, some n => ⟨UInt8.ofNat n, true⟩ :: symbolsFrom fuel r
      | none, none => ⟨c, true⟩ :: symbolsFrom fuel r

def symbols (text : List UInt8) : List Symbol := symbolsFrom text.length text

/-- The symbols before the closing mark and bracket, and what follows these. -/
private def closed? (mark : Char) : List Symbol → Option (List Symbol × List Symbol)
  | a :: b :: r =>
    if a.is mark && b.is ']' then some ([], r)
    else (closed? mark (b :: r)).map fun (inside, rest) => (a :: inside, rest)
  | _ => none

private def digits? (base : Nat) (s : List Symbol) : Option Nat :=
  s.foldl (fun n? d =>
    match n? with
    | some n =>
      if 48 ≤ d.byte.toNat ∧ d.byte.toNat < 48 + base then some (n * base + (d.byte.toNat - 48))
      else none
    | none => none) (some 0)

private inductive Bracketed where
  | item (i : ByteItem) (rest : List Symbol)
  | nothing
  | invalid

/-- A repetition: a byte, an asterisk, and how often, in octal after a zero; up to the bracket. -/
private def repetition : List Symbol → Bracketed
  | b :: star :: r =>
    if star.is '*' then
      let count := r.takeWhile fun s => s.byte ≠ 93 && !s.escaped
      match r.drop count.length with
      | close :: rest =>
        if close.escaped then .nothing
        else
          match digits? (if count.head?.any (·.byte == 48) then 8 else 10) count with
          | some 0 => .item (.filling b.byte) rest
          | some n => .item (.repeated b.byte n) rest
          | none => .invalid
      | [] => .nothing
    else .nothing
  | _ => .nothing

private def bracketed : List Symbol → Bracketed
  | mark :: r =>
    let orRepetition (s : List Symbol) : Bracketed :=
      match s with
      | star :: rest =>
        if star.is '*' && (rest.dropWhile fun d => 48 ≤ d.byte && d.byte ≤ 57).head?.any (·.is ']')
        then repetition (mark :: s)
        else .invalid
      | [] => .invalid
    let name (s : List Symbol) : List UInt8 := s.map (·.byte)
    if mark.is ':' then
      match closed? ':' r with
      | some (inside, rest) =>
        match ByteClass.named.find? fun k => Text.utf8 k.1.toList == name inside with
        | some k => .item (.members k.2) rest
        | none => if inside.isEmpty then .invalid else orRepetition r
      | none => repetition (mark :: r)
    else if mark.is '=' then
      match closed? '=' r with
      | some ([b], rest) => .item (.alike b.byte) rest
      | some ([], _) => .invalid
      | some _ => orRepetition r
      | none => repetition (mark :: r)
    else repetition (mark :: r)
  | [] => .nothing

/-- The parts of a list; none when it cannot be read. `fuel` is the number of symbols. -/
private def itemsFrom : (fuel : Nat) → List Symbol → Option (List ByteItem)
  | 0, _ => some []
  | fuel + 1, a :: b :: c :: r =>
    let plain : Option (List ByteItem) :=
      if b.is '-' then
        if a.byte ≤ c.byte then (itemsFrom fuel r).map (.span a.byte c.byte :: ·) else none
      else (itemsFrom fuel (b :: c :: r)).map (.single a.byte :: ·)
    if a.is '[' then
      match bracketed (b :: c :: r) with
      | .item i rest => (itemsFrom fuel rest).map (i :: ·)
      | .nothing => plain
      | .invalid => none
    else plain
  | _, few => some (few.map fun s => .single s.byte)

def byteItems? (text : String) : Option (List ByteItem) :=
  let s := symbols (Text.utf8 text.toList)
  itemsFrom s.length s

/-- The bytes of a list, where a part that fills up has as much room as `length` leaves. -/
def bytesOf (length : Nat) (items : List ByteItem) : List UInt8 :=
  let fixed := (items.flatMap (·.bytes 0)).length
  items.flatMap (·.bytes (length - fixed))

end SqlConsole.World

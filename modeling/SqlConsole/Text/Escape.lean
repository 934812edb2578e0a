/-! C string literals: quoting text byte by byte, and resolving backslash escapes. -/
namespace SqlConsole.Text

/-- The digit `n` of base eight; only the lowest digit of a larger number is taken. -/
def octalDigit (n : Nat) : Char := Char.ofNat (48 + n % 8)

def octalEscape (b : UInt8) : List Char :=
  ['\\', octalDigit (b.toNat / 64), octalDigit (b.toNat / 8), octalDigit b.toNat]

/-- A character inside a C string. What is not printable ASCII is written as its UTF-8 bytes. -/
def quotedChar (c : Char) : List Char :=
  if c = '\\' then ['\\', '\\']
  else if c = '"' then ['\\', '"']
  else if c = '\t' then ['\\', 't']
  else if c = '\n' then ['\\', 'n']
  else if c = '\r' then ['\\', 'r']
  else if 32 ≤ c.toNat ∧ c.toNat < 127 then [c]
  else (String.utf8EncodeChar c).flatMap octalEscape

def quoteC (s : List Char) : List Char := '"' :: s.flatMap quotedChar ++ ['"']

def octalValue? (c : Char) : Option Nat :=
  if '0' ≤ c ∧ c ≤ '7' then some (c.toNat - 48) else none

inductive Escape where
  | closed
  | backslash
  /-- Octal digits that write `value`; up to `more + 1` of them may follow. -/
  | octal (value more : Nat)
  deriving DecidableEq, Repr

/-- What a backslash before a character that is no octal digit stands for. -/
def escaped (c : Char) : Char :=
  if c = 'n' then '\n' else if c = 't' then '\t' else if c = 'r' then '\r' else c

/-- The text that follows what has been read of an escape, its escapes resolved. -/
def unescapeFrom : Escape → List Char → List Char
  | .closed, [] => []
  | .backslash, [] => []
  | .octal v _, [] => [Char.ofNat v]
  | .closed, c :: r => if c = '\\' then unescapeFrom .backslash r else c :: unescapeFrom .closed r
  | .backslash, c :: r =>
    match octalValue? c with
    | some d => unescapeFrom (.octal d 1) r
    | none => escaped c :: unescapeFrom .closed r
  | .octal v more, c :: r =>
    match octalValue? c, more with
    | some d, m + 1 => unescapeFrom (.octal (8 * v + d) m) r
    | some d, 0 => Char.ofNat (8 * v + d) :: unescapeFrom .closed r
    | none, _ =>
      Char.ofNat v ::
        if c = '\\' then unescapeFrom .backslash r else c :: unescapeFrom .closed r

/-- Resolves backslash escapes: those of line feed, tab and carriage return, and one to three octal
digits that name a code point. A backslash before any other character is dropped, and so is one at
the end. -/
def unescape (s : List Char) : List Char := unescapeFrom .closed s

end SqlConsole.Text

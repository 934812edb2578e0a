/-! UTF-8: the bytes of a text, and the text of bytes, ill-formed parts replaced or refused. -/
namespace SqlConsole.Text

def utf8 (s : List Char) : List UInt8 := s.flatMap String.utf8EncodeChar

/-- A character of which some bytes have been read. The next one has to lie between `low` and
`high`. -/
structure Unfinished where
  bits : Nat
  missing : Nat
  low : UInt8
  high : UInt8
  deriving DecidableEq, Repr

inductive Lead where
  | whole (c : Char)
  | opens (u : Unfinished)
  | illFormed

/-- The byte as the first one of a character. Overlong forms, surrogates and code points past the
last one are excluded by the range of the second byte. -/
def lead (b : UInt8) : Lead :=
  if b < 0x80 then .whole (Char.ofNat b.toNat)
  else if b < 0xC2 then .illFormed
  else if b < 0xE0 then .opens ⟨b.toNat - 0xC0, 1, 0x80, 0xBF⟩
  else if b < 0xF0 then
    .opens ⟨b.toNat - 0xE0, 2, if b = 0xE0 then 0xA0 else 0x80, if b = 0xED then 0x9F else 0xBF⟩
  else if b < 0xF5 then
    .opens ⟨b.toNat - 0xF0, 3, if b = 0xF0 then 0x90 else 0x80, if b = 0xF4 then 0x8F else 0xBF⟩
  else .illFormed

def Unfinished.next (u : Unfinished) (b : UInt8) : Lead :=
  if u.low ≤ b ∧ b ≤ u.high then
    let bits := u.bits * 64 + (b.toNat - 0x80)
    if u.missing ≤ 1 then .whole (Char.ofNat bits) else .opens ⟨bits, u.missing - 1, 0x80, 0xBF⟩
  else .illFormed

def replacement : Char := '\ufffd'

/-- The text of bytes that follow an unfinished character. Each longest start of a character that
does not go on becomes one replacement, and so does each byte that starts none. -/
def decodeFrom : Option Unfinished → List UInt8 → List Char
  | none, [] => []
  | some _, [] => [replacement]
  | none, b :: r =>
    match lead b with
    | .whole c => c :: decodeFrom none r
    | .opens u => decodeFrom (some u) r
    | .illFormed => replacement :: decodeFrom none r
  | some u, b :: r =>
    match u.next b with
    | .whole c => c :: decodeFrom none r
    | .opens u' => decodeFrom (some u') r
    | .illFormed =>
      replacement ::
        match lead b with
        | .whole c => c :: decodeFrom none r
        | .opens u' => decodeFrom (some u') r
        | .illFormed => replacement :: decodeFrom none r

def decode (bytes : List UInt8) : List Char := decodeFrom none bytes

/-- The text of one block, and the character left unfinished at its end; none when a byte is
ill-formed. -/
def decodeBlock : Option Unfinished → List UInt8 → Option (List Char × Option Unfinished)
  | u, [] => some ([], u)
  | u, b :: r =>
    match (match u with | none => lead b | some u => u.next b) with
    | .whole c => (decodeBlock none r).map fun (cs, u') => (c :: cs, u')
    | .opens u' => decodeBlock (some u') r
    | .illFormed => none

end SqlConsole.Text

import SqlConsole.Sql.Value
import SqlConsole.Text.Doubled

/-! SQL literals and quoted names. -/
namespace SqlConsole.Sql

def quoteString (s : List Char) : List Char := Text.enclose '\x27' s

def quoteIdentifier (s : List Char) : List Char := Text.enclose '"' s

def isNameStart (c : Char) : Bool := c.isAlpha || c == '_'

def isNameChar (c : Char) : Bool := c.isAlphanum || c == '_'

/-- The name of a table that rows are inserted into. It is quoted unless it is a plain name. -/
def quoteTableName (name : List Char) : List Char :=
  match name with
  | c :: _ => if isNameStart c && name.all isNameChar then name else quoteString name
  | [] => quoteString []

/-- The text after one or more digits. -/
def digits? (s : List Char) : Option (List Char) :=
  match s with
  | c :: r => if c.isDigit then some (r.dropWhile Char.isDigit) else none
  | [] => none

def dropSign : List Char → List Char
  | '-' :: r => r
  | '+' :: r => r
  | r => r

def isExponent : List Char → Bool
  | [] => true
  | c :: r => (c == 'e' || c == 'E') && digits? (dropSign r) == some []

/-- A numeric literal: a sign, digits, a fraction and an exponent, of which only the digits have to
be there. -/
def isNumber (s : List Char) : Bool :=
  match digits? (dropSign s) with
  | none => false
  | some ('.' :: r) => (digits? r).any isExponent
  | some r => isExponent r

def hexDigit (n : Nat) : Char := if n < 10 then Char.ofNat (48 + n) else Char.ofNat (87 + n)

def hex (bytes : List UInt8) : List Char :=
  bytes.flatMap fun b => [hexDigit (b.toNat / 16), hexDigit (b.toNat % 16)]

namespace Value

def literal : Value → List Char
  | null => ['N', 'U', 'L', 'L']
  | integer n => integerText n
  | real x => x.text
  | text s => quoteString s.toList
  | blob bytes => 'X' :: '\x27' :: hex bytes ++ ['\x27']

/-- The literal for a value whose storage class is not known: bare when its text reads as a number,
else a string. -/
def untypedLiteral (v : Value) : List Char :=
  match v.text? with
  | none => ['N', 'U', 'L', 'L']
  | some t => if isNumber t then t else quoteString t

end Value

end SqlConsole.Sql

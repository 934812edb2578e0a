import SqlConsole.Sql.Real
import SqlConsole.Text.Utf8

/-! Values of the database and their plain text. -/
namespace SqlConsole.Sql

inductive Value where
  | null
  | integer (n : Int)
  | real (x : Real)
  | text (s : String)
  | blob (bytes : List UInt8)
  deriving DecidableEq, Repr

inductive StorageClass where
  | integer
  | real
  | text
  | blob
  | null
  deriving DecidableEq, Repr

/-- The number that SQLite gives a storage class. -/
def StorageClass.code : StorageClass → Nat
  | .integer => 1
  | .real => 2
  | .text => 3
  | .blob => 4
  | .null => 5

def integerText : Int → List Char
  | .ofNat n => Nat.toDigits 10 n
  | .negSucc n => '-' :: Nat.toDigits 10 (n + 1)

namespace Value

def storage : Value → StorageClass
  | null => .null
  | integer _ => .integer
  | real _ => .real
  | text _ => .text
  | blob _ => .blob

def text? : Value → Option (List Char)
  | null => none
  | integer n => some (integerText n)
  | real x => some x.text
  | text s => some s.toList
  | blob bytes => some (Text.decode bytes)

def shown (absent : List Char) (v : Value) : List Char := v.text?.getD absent

end Value

end SqlConsole.Sql

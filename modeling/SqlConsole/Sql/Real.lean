import SqlConsole.Decimal.Significant

/-! Floating point values and their decimal text. -/
namespace SqlConsole.Sql

/-- A double, by its sixty-four bits. -/
structure Real where
  bits : UInt64
  deriving DecidableEq, Repr

inductive Magnitude where
  | finite (num den : Nat)
  | infinite
  | notANumber
  deriving DecidableEq, Repr

namespace Real

def negative (x : Real) : Bool := x.bits.toNat.testBit 63

/-- The value without its sign, as an exact fraction. -/
def magnitude (x : Real) : Magnitude :=
  let exponent := (x.bits.toNat >>> 52) % 2048
  let fraction := x.bits.toNat % (1 <<< 52)
  if exponent = 2047 then
    if fraction = 0 then .infinite else .notANumber
  else
    let m := if exponent = 0 then fraction else fraction + (1 <<< 52)
    let e := max exponent 1
    if 1075 ≤ e then .finite (m <<< (e - 1075)) 1 else .finite m (1 <<< (1075 - e))

/-- Digits after the point, without trailing zeros and never none at all. -/
def fractionText (digits : List Char) : List Char :=
  match (digits.reverse.dropWhile (· == '0')).reverse with
  | [] => ['0']
  | ds => ds

/-- An exponent: a sign, and at least two digits. -/
def exponentText (e : Int) : List Char :=
  let digits := Nat.toDigits 10 e.natAbs
  (if e < 0 then '-' else '+') :: (if digits.length < 2 then '0' :: digits else digits)

def precision : Nat := 15

/-- A decimal: positional where the leading digit counts at least a ten thousandth and less than
`10 ^ precision`, else with an exponent. -/
def scientificText (s : Decimal.Scientific) : List Char :=
  let digits := Nat.toDigits 10 s.digits
  if 0 ≤ s.exponent ∧ s.exponent < precision then
    let whole := s.exponent.toNat + 1
    digits.take whole ++ '.' :: fractionText (digits.drop whole)
  else if -4 ≤ s.exponent ∧ s.exponent < 0 then
    '0' :: '.' :: fractionText (List.replicate (s.exponent.natAbs - 1) '0' ++ digits)
  else
    digits.take 1 ++ '.' :: fractionText (digits.drop 1) ++ 'e' :: exponentText s.exponent

def finiteText (num den : Nat) : List Char :=
  if num = 0 then ['0', '.', '0']
  else scientificText (Decimal.significant (precision - 1) num den)

def text (x : Real) : List Char :=
  let sign := if x.negative then ['-'] else []
  match x.magnitude with
  | .finite num den => sign ++ finiteText num den
  | .infinite => sign ++ ['I', 'n', 'f']
  | .notANumber => ['n', 'a', 'n', '.', '0']

end Real

end SqlConsole.Sql

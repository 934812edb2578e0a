import SqlConsole.Text.Blank
import SqlConsole.Text.Escape

/-! Words of a dot command line. -/
namespace SqlConsole.Command

open Text (isBlank unescape)

/-- The text before the first `stop`, and what follows it; all of the text where there is none. -/
def upTo (stop : Char) : List Char → List Char × List Char
  | [] => ([], [])
  | c :: r => if c = stop then ([], r) else let (a, b) := upTo stop r; (c :: a, b)

/-- A word that starts with `c`, and what follows it. Inside single quotes the text stands for
itself; elsewhere backslash escapes are resolved. A quote that is not closed runs to the end. -/
def word (c : Char) (r : List Char) : List Char × List Char :=
  if c = '\x27' then upTo c r
  else if c = '"' then (unescape (upTo c r).1, (upTo c r).2)
  else
    let rest := c :: r
    (unescape (rest.takeWhile fun c => !isBlank c), (rest.dropWhile fun c => !isBlank c).drop 1)

def maxWords : Nat := 50

def wordsUpTo (n : Nat) (s : List Char) : List (List Char) :=
  match n with
  | 0 => []
  | n + 1 =>
    match s.dropWhile isBlank with
    | [] => []
    | c :: r => (word c r).1 :: wordsUpTo n (word c r).2

/-- The words of a line, whose first character is the dot. -/
def words (line : List Char) : List (List Char) := wordsUpTo maxWords (line.drop 1)

end SqlConsole.Command

import SqlConsole.Text.Blank
import SqlConsole.Text.Lower

/-! SQL text without content: white space and comments. -/
namespace SqlConsole.Statement

/-- Where in the text a scan for comments stands. -/
inductive Place where
  | outside
  | block
  | line
  deriving DecidableEq, Repr

/-- From the given place on there is nothing but white space and comments. A block comment has to
end; a line comment may run to the end of the text. -/
def isBlankFrom : Place → List Char → Bool
  | .outside, [] => true
  | .outside, '/' :: '*' :: r => isBlankFrom .block r
  | .outside, '-' :: '-' :: r => isBlankFrom .line r
  | .outside, c :: r => Text.isBlank c && isBlankFrom .outside r
  | .block, [] => false
  | .block, '*' :: '/' :: r => isBlankFrom .outside r
  | .block, _ :: r => isBlankFrom .block r
  | .line, [] => true
  | .line, c :: r => if c = '\n' then isBlankFrom .outside r else isBlankFrom .line r

def isBlank (s : List Char) : Bool := isBlankFrom .outside s

/-- There is nothing but white space, comments and semicolons. -/
def isVoid (s : List Char) : Bool := isBlank (s.map fun c => if c = ';' then ' ' else c)

/-- The line ends a statement like a semicolon does: a slash or the word GO, with nothing else but
white space and comments. -/
def isTerminator (line : List Char) : Bool :=
  let s := Text.trimLeft line
  (s.head? == some '/' && isBlank (s.drop 1)) ||
    (Text.lower (s.take 2) == ['g', 'o'] && isBlank (s.drop 2))

end SqlConsole.Statement

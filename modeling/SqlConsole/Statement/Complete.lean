import SqlConsole.Statement.Token

/-! When SQL text is a whole number of statements: an automaton over its tokens. -/
namespace SqlConsole.Statement

/-- What the tokens read so far amount to. -/
inductive State where
  /-- Nothing but white space since the start of the text. -/
  | invalid
  /-- Between statements, at least one of which has ended. -/
  | start
  /-- Inside a statement that ends at the next semicolon. -/
  | normal
  /-- After EXPLAIN at the start of a statement. -/
  | explain
  /-- After CREATE at the start of a statement. -/
  | create
  /-- Inside the definition of a trigger. -/
  | triggerBody
  /-- After a semicolon in the definition of a trigger. -/
  | triggerSemicolon
  /-- After an END that a semicolon preceded, in the definition of a trigger. -/
  | triggerEnd
  deriving DecidableEq, Repr

def State.next : State → Token → State
  | .triggerBody, .semicolon => .triggerSemicolon
  | .triggerSemicolon, .semicolon => .triggerSemicolon
  | _, .semicolon => .start
  | q, .blank => q
  | .triggerSemicolon, .endWord => .triggerEnd
  | .triggerBody, _ => .triggerBody
  | .triggerSemicolon, _ => .triggerBody
  | .triggerEnd, _ => .triggerBody
  | .create, .temporary => .create
  | .create, .trigger => .triggerBody
  | .explain, .other => .explain
  | .explain, .create => .create
  | .invalid, .explain => .explain
  | .invalid, .create => .create
  | .start, .explain => .explain
  | .start, .create => .create
  | _, _ => .normal

/-- From state `q` on, the text ends where a statement may start after another one has ended. A line
comment may be open there, anything else has to be closed. -/
def isCompleteFrom (q : State) (s : List Char) : Bool :=
  match s with
  | [] => q == .start
  | c :: r =>
    match _h : piece c r with
    | .token k _ rest => isCompleteFrom (q.next k) rest
    | .lineComment => q == .start
    | .unclosed => false
termination_by s.length
decreasing_by exact length_lt_of_piece _h

/-- Whether the engine can tell at all if a text is complete. It takes no text with the character
zero in it. -/
def isJudged (s : List Char) : Bool := !s.contains '\x00'

/-- The text ends with a finished statement. -/
def isComplete (s : List Char) : Bool := isCompleteFrom .invalid s

/-- The text, which may be empty, would end with a finished statement if a semicolon followed. -/
def endsAtSemicolon (s : List Char) : Bool := s.isEmpty || isComplete (s ++ [';'])

end SqlConsole.Statement

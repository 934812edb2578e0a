/-! Lines of text, with their ends kept. -/
namespace SqlConsole.Text

/-- Each CR LF and each other CR as one LF. -/
def unifyLineEnds : List Char → List Char
  | '\r' :: '\n' :: r => '\n' :: unifyLineEnds r
  | '\r' :: r => '\n' :: unifyLineEnds r
  | c :: r => c :: unifyLineEnds r
  | [] => []

def attach (c : Char) : List (List Char) → List (List Char)
  | [] => [[c]]
  | l :: ls => (c :: l) :: ls

/-- The lines of a text, each but the last ended by the LF it holds. -/
def lines : List Char → List (List Char)
  | [] => []
  | c :: r => if c = '\n' then ['\n'] :: lines r else attach c (lines r)

/-- The lines of a text, each but the last ended by the LF, CR LF or lone CR it holds. -/
def anyLines : List Char → List (List Char)
  | [] => []
  | '\r' :: '\n' :: r => ['\r', '\n'] :: anyLines r
  | c :: r => if c = '\n' ∨ c = '\r' then [c] :: anyLines r else attach c (anyLines r)

def chomp (line : List Char) : List Char :=
  match line.reverse with
  | '\n' :: r => r.reverse
  | _ => line

private theorem flatten_attach (c : Char) (ls : List (List Char)) :
    (attach c ls).flatten = c :: ls.flatten := by cases ls <;> simp [attach]

theorem flatten_anyLines (s : List Char) : (anyLines s).flatten = s := by
  fun_induction anyLines s with
  | case1 => rfl
  | case2 r ih => simp [ih]
  | case3 c r _ h ih => simp [ih]
  | case4 c r _ h ih => simp [flatten_attach, ih]

end SqlConsole.Text

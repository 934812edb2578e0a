/-! Quoting by a character that is written twice inside the quotes. -/
namespace SqlConsole.Text

def double (q : Char) (s : List Char) : List Char :=
  s.flatMap fun c => if c = q then [q, q] else [c]

/-- The text between two `q`, every `q` inside written twice. -/
def enclose (q : Char) (s : List Char) : List Char := q :: double q s ++ [q]

@[simp] theorem double_nil (q : Char) : double q [] = [] := rfl

theorem double_cons (q c : Char) (s : List Char) :
    double q (c :: s) = (if c = q then [q, q] else [c]) ++ double q s := rfl

@[simp] theorem double_append (q : Char) (s t : List Char) :
    double q (s ++ t) = double q s ++ double q t := List.flatMap_append

end SqlConsole.Text

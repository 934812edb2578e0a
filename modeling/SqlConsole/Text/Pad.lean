/-! Cells: text brought to a width. -/
namespace SqlConsole.Text

def padRight (n : Nat) (s : List Char) : List Char := s ++ List.replicate (n - s.length) ' '

def padLeft (n : Nat) (s : List Char) : List Char := List.replicate (n - s.length) ' ' ++ s

/-- The text padded to the width `w`, blanks in front where `w` is negative. -/
def pad (w : Int) (s : List Char) : List Char :=
  if w < 0 then padLeft w.natAbs s else padRight w.natAbs s

/-- The start of the text that fits into the width `w`, padded to it. -/
def cell (w : Int) (s : List Char) : List Char := pad w (s.take w.natAbs)

@[simp] theorem length_padRight (n : Nat) (s : List Char) :
    (padRight n s).length = max n s.length := by simp [padRight]; omega

@[simp] theorem length_padLeft (n : Nat) (s : List Char) :
    (padLeft n s).length = max n s.length := by simp [padLeft]; omega

@[simp] theorem length_pad (w : Int) (s : List Char) :
    (pad w s).length = max w.natAbs s.length := by unfold pad; split <;> simp

@[simp] theorem length_cell (w : Int) (s : List Char) : (cell w s).length = w.natAbs := by
  simp only [cell, length_pad, List.length_take]; omega

end SqlConsole.Text

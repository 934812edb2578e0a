import SqlConsole.Text.Lines
import SqlConsole.Text.Utf8

/-! Bytes read as text, one line at a time. Blocks are read only as they are needed, so bytes that
come later may still change. -/
namespace SqlConsole.Text

/-- What becomes of the ends of lines: LF, CR LF or a lone CR. -/
inductive LineEnds where
  | unified
  | kept
  deriving DecidableEq, Repr

def LineEnds.apply : LineEnds → List Char → List Char
  | unified, s => unifyLineEnds s
  | kept, s => s

structure Reader where
  ends : LineEnds
  passed : Nat := 0
  unfinished : Option Unfinished := none
  /-- A CR was read last: an LF that follows belongs to it. -/
  heldReturn : Bool := false
  /-- Text that has been read and not been taken. -/
  ahead : List Char := []
  deriving DecidableEq, Repr

def blockSize : Nat := 8192

def isLineEnd (c : Char) : Bool := c == '\n' || c == '\r'

/-- The first line with its end, and what follows it, if the text holds the end of a line. -/
def cutLine? (s : List Char) : Option (List Char × List Char) :=
  match s.dropWhile (!isLineEnd ·) with
  | [] => none
  | '\r' :: '\n' :: r => some (s.takeWhile (!isLineEnd ·) ++ ['\r', '\n'], r)
  | c :: r => some (s.takeWhile (!isLineEnd ·) ++ [c], r)

namespace Reader

/-- Reads one block. A CR at its end is held back. None when a byte is ill-formed. -/
def fill? (r : Reader) (block : List UInt8) : Option Reader :=
  (decodeBlock r.unfinished block).map fun (cs, unfinished) =>
    let text := if r.heldReturn && !cs.isEmpty then '\r' :: cs else cs
    let ended := text.getLast? == some '\r'
    { r with
      passed := r.passed + block.length
      unfinished
      heldReturn := ended || (r.heldReturn && cs.isEmpty)
      ahead := r.ahead ++ r.ends.apply (if ended then text.dropLast else text) }

def take? (r : Reader) : Option (List Char × Reader) :=
  (cutLine? r.ahead).map fun (l, ahead) => (l, { r with ahead })

/-- The last line, when no more bytes are to be had. None when a character is left unfinished. -/
def takeLast? (r : Reader) : Option (List Char × Reader) :=
  if r.unfinished.isSome then none
  else
    let ending := if r.heldReturn then r.ends.apply ['\r'] else []
    some (r.ahead ++ ending, { r with ahead := [], heldReturn := false })

/-- Reads blocks of the remaining bytes until a line can be taken. -/
def lineFrom? (r : Reader) (rest : List UInt8) : Option (List Char × Reader) :=
  match rest with
  | [] => r.takeLast?
  | b :: bs =>
    match r.fill? (b :: bs.take (blockSize - 1)) with
    | none => none
    | some r' =>
      match r'.take? with
      | some found => some found
      | none => lineFrom? r' (bs.drop (blockSize - 1))
termination_by rest.length
decreasing_by simp only [List.length_drop, List.length_cons]; omega

/-- The next line of bytes of which some have been read, and the reader after it. At the end the
line is empty. None when bytes that have to be read are not UTF-8. -/
def line? (r : Reader) (bytes : List UInt8) : Option (List Char × Reader) :=
  match r.take? with
  | some found => some found
  | none => r.lineFrom? (bytes.drop r.passed)

end Reader

theorem append_of_cutLine? {s l r : List Char} (h : cutLine? s = some (l, r)) : l ++ r = s := by
  have hs := List.takeWhile_append_dropWhile (p := (!isLineEnd ·)) (l := s)
  unfold cutLine? at h
  split at h
  · simp at h
  · next r' hd =>
    rw [hd] at hs
    simp only [Option.some.injEq, Prod.mk.injEq] at h
    simp [← h.1, ← h.2, hs]
  · next c r' _ hd =>
    rw [hd] at hs
    simp only [Option.some.injEq, Prod.mk.injEq] at h
    simp [← h.1, ← h.2, hs]

end SqlConsole.Text

import SqlConsole.Text.Lines

/-! Reading delimited records: lines joined inside quotes, and split at separators. -/
namespace SqlConsole.Delimited

/-- A record, and the number of the last line of the file that it takes up. -/
structure Record where
  line : Nat
  text : List Char
  deriving DecidableEq, Repr

/-- The text without the LF at its end and then without the CR at its end. -/
def dropLineEnd (s : List Char) : List Char :=
  let s := Text.chomp s
  match s.reverse with
  | '\r' :: r => r.reverse
  | _ => s

def isBalanced (s : List Char) : Bool := s.count '"' % 2 == 0

structure Gathering where
  lines : Nat := 0
  /-- The start of a record whose quotes are not closed yet. -/
  begun : List Char := []
  deriving DecidableEq, Repr

namespace Gathering

/-- Takes one more line. It ends a record unless quotes stay open. -/
def add (g : Gathering) (line : List Char) : Option Record × Gathering :=
  let text := g.begun ++ line
  if isBalanced text then (some ⟨g.lines + 1, dropLineEnd text⟩, ⟨g.lines + 1, []⟩)
  else (none, ⟨g.lines + 1, text⟩)

/-- The record that is ended by the end of the lines. -/
def last? (g : Gathering) : Option Record :=
  if g.begun.isEmpty then none else some ⟨g.lines, dropLineEnd g.begun⟩

def clear (g : Gathering) : Gathering := { g with begun := [] }

/-- The records that end in the given lines or at their end. -/
def records (g : Gathering) : List (List Char) → List Record
  | [] => g.last?.toList
  | l :: ls => (g.add l).1.toList ++ records (g.add l).2 ls

end Gathering

def records (s : List Char) : List Record := Gathering.records {} (Text.anyLines s)

/-- Cuts at each separator outside of quotes. Of a separator already met, `passing` characters are
still to come. -/
def cutAt (separator : List Char) (passing : Nat) (quoted : Bool) : List Char → List (List Char)
  | [] => [[]]
  | c :: r =>
    match passing with
    | n + 1 => cutAt separator n quoted r
    | 0 =>
      if c = '"' then Text.attach c (cutAt separator 0 (!quoted) r)
      else if !quoted && separator.isPrefixOf (c :: r) then
        [] :: cutAt separator (separator.length - 1) false r
      else Text.attach c (cutAt separator 0 quoted r)

/-- The text inside quotes: a quote stands for the character after it. -/
def unquoteRest : List Char → List Char
  | [] => []
  | ['"'] => []
  | '"' :: c :: r => c :: unquoteRest r
  | c :: r => c :: unquoteRest r

/-- A field that starts with a quote is read inside quotes; any other one is taken as it stands. -/
def unquote : List Char → List Char
  | '"' :: r => unquoteRest r
  | s => s

def fields (separator s : List Char) : List (List Char) :=
  (cutAt separator 0 false s).map unquote

end SqlConsole.Delimited

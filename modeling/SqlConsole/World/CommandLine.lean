/-! Command lines: their words, and the commands that bars connect. -/
namespace SqlConsole.World

/-- A character of a command line, after quotation has been taken account of. -/
inductive Glyph where
  | plain (c : Char)
  /-- It stands in quotes or after a backslash, and for itself. -/
  | literal (c : Char)
  /-- A quotation mark, which makes a word even if nothing else does. -/
  | mark
  deriving DecidableEq, Repr

namespace Glyph

/-- The characters that a backslash between double quotation marks takes the meaning from. -/
def quotable : List Char := ['$', '\x60', '"', '\\']

/-- The glyphs of a text that starts inside of the marks `open?`, or else outside of any. -/
def ofText (open? : Option Char) : List Char → List Glyph
  | [] => []
  | '\\' :: d :: r =>
    match open? with
    | none => literal d :: ofText none r
    | some '"' =>
      if quotable.contains d then literal d :: ofText open? r
      else literal '\\' :: literal d :: ofText open? r
    | some q => literal '\\' :: if d = q then mark :: ofText none r else literal d :: ofText open? r
  | c :: r =>
    match open? with
    | none => if c = '"' ∨ c = '\x27' then mark :: ofText (some c) r else plain c :: ofText none r
    | some q => if c = q then mark :: ofText none r else literal c :: ofText open? r

def text? : Glyph → Option Char
  | plain c => some c
  | literal c => some c
  | mark => none

end Glyph

inductive Redirection where
  | input
  /-- An output, the standard one if its number is 1, that starts the file anew. -/
  | output (stream : Nat)
  | appended (stream : Nat)
  deriving DecidableEq, Repr

inductive Lexeme where
  | word (text : String)
  | bar
  | redirection (d : Redirection)
  | other
  deriving DecidableEq, Repr

namespace Lexeme

/-- The word of the given glyphs, which stand in reverse; no glyphs are no word. -/
def ofGlyphs (w : List Glyph) : List Lexeme :=
  if w.isEmpty then [] else [word (String.ofList (w.reverse.filterMap Glyph.text?))]

/-- The output that a redirection after the given glyphs concerns, and the lexemes before it. A
digit that stands right in front of it is the number of the output. -/
def stream (w : List Glyph) : Nat × List Lexeme :=
  match w with
  | [.plain d] => if d.isDigit then (d.toNat - 48, []) else (1, ofGlyphs w)
  | _ => (1, ofGlyphs w)

/-- The lexemes of the glyphs that follow the word `w`, which stands in reverse. -/
def ofRest (w : List Glyph) : List Glyph → List Lexeme
  | [] => ofGlyphs w
  | .plain '>' :: .plain '>' :: r =>
    (stream w).2 ++ redirection (.appended (stream w).1) :: ofRest [] r
  | .plain c :: r =>
    match c with
    | ' ' | '\t' => ofGlyphs w ++ ofRest [] r
    | '>' => (stream w).2 ++ redirection (.output (stream w).1) :: ofRest [] r
    | '<' => (stream w).2 ++ redirection .input :: ofRest [] r
    | '|' => ofGlyphs w ++ bar :: ofRest [] r
    | ';' | '&' | '(' | ')' | '\n' => ofGlyphs w ++ other :: ofRest [] r
    | _ => ofRest (.plain c :: w) r
  | g :: r => ofRest (g :: w) r

end Lexeme

structure ShellCommand where
  words : List String := []
  redirections : List (Redirection × String) := []
  deriving DecidableEq, Repr

namespace ShellCommand

/-- The first command of the lexemes, and those after bars. None when they connect in another
way. -/
def ofLexemes? : List Lexeme → Option (ShellCommand × List ShellCommand)
  | [] => some ({}, [])
  | .word t :: r => (ofLexemes? r).map fun (c, cs) => ({ c with words := t :: c.words }, cs)
  | .bar :: r => (ofLexemes? r).map fun (c, cs) => ({}, c :: cs)
  | .redirection d :: .word f :: r =>
    (ofLexemes? r).map fun (c, cs) => ({ c with redirections := (d, f) :: c.redirections }, cs)
  | _ => none

/-- The commands of a line, each of which reads what the one before writes. None when the line has
any other meaning. -/
def ofLine? (line : String) : Option (List ShellCommand) :=
  (ofLexemes? (Lexeme.ofRest [] (Glyph.ofText none line.toList))).map fun (c, cs) => c :: cs

end ShellCommand

end SqlConsole.World

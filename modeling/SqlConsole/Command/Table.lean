/-! The dot commands, and how the one meant is found. -/
namespace SqlConsole

/-- The dot commands, in the order in which they are tried. -/
inductive Command where
  | backup
  | bail
  | breakpoint
  | databases
  | dump
  | echo
  | exit
  | explain
  | headers
  | help
  | import_
  | indices
  | load
  | log
  | mode
  | nullvalue
  | output
  | print
  | prompt
  | quit
  | read
  | restore
  | schema
  | separator
  | show_
  | stats
  | tables
  | testctrl
  | timeout
  | timer
  | trace
  | version
  | vfsname
  | width
  deriving DecidableEq, Repr

namespace Command

structure Arity where
  least : Nat
  /-- No bound if none is given. -/
  most : Option Nat
  deriving DecidableEq, Repr

def Arity.accepts (a : Arity) (n : Nat) : Bool := a.least ≤ n && a.most.all (n ≤ ·)

structure Usage where
  name : String
  /-- How many characters of the name have to be typed. -/
  shortest : Nat
  arity : Arity
  deriving DecidableEq, Repr

private def any : Arity := ⟨0, none⟩
private def exactly (n : Nat) : Arity := ⟨n, some n⟩
private def atLeast (n : Nat) : Arity := ⟨n, none⟩
private def atMost (n : Nat) : Arity := ⟨0, some n⟩
private def between (m n : Nat) : Arity := ⟨m, some n⟩

def usage : Command → Usage
  | backup => ⟨"backup", 3, any⟩
  | bail => ⟨"bail", 3, exactly 1⟩
  | breakpoint => ⟨"breakpoint", 3, any⟩
  | databases => ⟨"databases", 2, exactly 0⟩
  | dump => ⟨"dump", 1, any⟩
  | echo => ⟨"echo", 1, exactly 1⟩
  | exit => ⟨"exit", 1, any⟩
  | explain => ⟨"explain", 1, atMost 1⟩
  | headers => ⟨"headers", 1, exactly 1⟩
  | help => ⟨"help", 1, any⟩
  | import_ => ⟨"import", 1, exactly 2⟩
  | indices => ⟨"indices", 1, atMost 1⟩
  | load => ⟨"load", 1, between 1 2⟩
  | log => ⟨"log", 1, atLeast 1⟩
  | mode => ⟨"mode", 1, between 1 2⟩
  | nullvalue => ⟨"nullvalue", 1, exactly 1⟩
  | output => ⟨"output", 1, exactly 1⟩
  | print => ⟨"print", 3, any⟩
  | prompt => ⟨"prompt", 1, between 1 2⟩
  | quit => ⟨"quit", 1, exactly 0⟩
  | read => ⟨"read", 3, exactly 1⟩
  | restore => ⟨"restore", 3, between 1 2⟩
  | schema => ⟨"schema", 1, atMost 1⟩
  | separator => ⟨"separator", 1, exactly 1⟩
  | show_ => ⟨"show", 1, exactly 0⟩
  | stats => ⟨"stats", 1, exactly 1⟩
  | tables => ⟨"tables", 2, atMost 1⟩
  | testctrl => ⟨"testctrl", 8, atLeast 1⟩
  | timeout => ⟨"timeout", 5, exactly 1⟩
  | timer => ⟨"timer", 5, exactly 1⟩
  | trace => ⟨"trace", 1, atLeast 1⟩
  | version => ⟨"version", 1, any⟩
  | vfsname => ⟨"vfsname", 1, any⟩
  | width => ⟨"width", 1, atLeast 1⟩

def all : List Command :=
  [backup, bail, breakpoint, databases, dump, echo, exit, explain, headers, help, import_, indices,
   load, log, mode, nullvalue, output, print, prompt, quit, read, restore, schema, separator, show_,
   stats, tables, testctrl, timeout, timer, trace, version, vfsname, width]

def name (c : Command) : String := c.usage.name

/-- The typed text, with `n` arguments after it, may mean the command: it is the start of the name,
long enough, and the command takes that many arguments. -/
def matchesTyped (typed : String) (n : Nat) (c : Command) : Bool :=
  max c.usage.shortest 1 ≤ typed.length && typed.toList.isPrefixOf c.name.toList &&
    c.usage.arity.accepts n

def find? (typed : String) (n : Nat) : Option Command := all.find? (matchesTyped typed n)

end Command

end SqlConsole

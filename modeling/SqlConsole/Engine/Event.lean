import SqlConsole.Sql.Value

/-! Calls that the console makes of the engine and of the line history. -/
namespace SqlConsole.Engine

inductive Event where
  /-- Opens the console's database, through a file system of that name if one is given. -/
  | openMain (filename : String) (fileSystem : Option String)
  | openOther (filename : String)
  | close (filename : String)
  | execute (sql : String) (bindings : List Sql.Value)
  | prepare (sql : String) (bindings : List Sql.Value)
  /-- Ends a statement before its last row. -/
  | abandon
  | busyTimeout (milliseconds : Int)
  | load (file : String) (entry : Option String)
  | interrupt
  | backup (target targetDb source sourceDb : String)
  | step (pages : Nat)
  | finish
  | sleep (milliseconds : Nat)
  | readHistory (path : String)
  | writeHistory (path : String)
  | historyLength (n : Nat)
  deriving DecidableEq, Repr

/-- How the console opens its database: by URI, for reading and writing, created if it is not
there. -/
def openFlags : Nat := 0x40 + 0x2 + 0x4

end SqlConsole.Engine

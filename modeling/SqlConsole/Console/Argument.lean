/-! The arguments of the program: which of them are options, and which options take a value. -/
namespace SqlConsole.Console

def isOption (argument : String) : Bool := argument.toList.head? == some '-'

/-- Options that take a value, whatever it looks like. -/
def valuedOptions : List String := ["separator", "nullvalue", "cmd", "init", "vfs"]

/-- The name of an option, which one dash or two stand before. -/
def optionName (written : String) : String :=
  match written.toList with
  | '-' :: '-' :: r => String.ofList r
  | cs => String.ofList (cs.drop 1)

end SqlConsole.Console

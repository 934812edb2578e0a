import SqlConsole.Console.Basic
import SqlConsole.Layout.Columns
import SqlConsole.Text.Digit
import SqlConsole.Text.Lower

/-! Dot commands that change settings or show them. -/
namespace SqlConsole.Console

/-- A whole number, as far as the argument starts with one. -/
def integerArgument (argument : String) : Act Console Int :=
  match Text.leadingInt argument.toList with
  | .ok n => pure n
  | .error f => Act.fail (.number f)

/-- Yes or no: a number, or one of four words in any case. Anything else counts as no, and the user
is told so. -/
def booleanArgument (argument : String) : Act Console Bool := do
  let cs := argument.toList
  if !cs.isEmpty && cs.all Text.isDigit then
    match Text.number? cs with
    | some n => pure (n != 0)
    | none => Act.fail (.number .notDecimal)
  else
    let word := String.ofList (Text.lower cs)
    if word = "on" || word = "yes" then pure true
    else if word = "off" || word = "no" then pure false
    else do
      writeError ("ERROR: Not a boolean value: \"" ++ argument ++ "\". Assuming \"no\".\n")
      pure false

def setSwitch (set : Bool → Settings → Settings) (argument : String) : Act Console Unit := do
  let b ← booleanArgument argument
  modifySettings (set b)

/-- Turns explain mode on or off; on without an argument. -/
def setExplain (argument? : Option String) : Act Console Unit := do
  let on ← match argument? with
    | none => pure true
    | some a => booleanArgument a
  modifySettings fun s => if on then s.explained else s.unexplained

/-- The modes by the names that the user may give, and the separators that come with them. -/
def modeNames : List (String × Mode × Option String) :=
  [("line", .line, none), ("lines", .line, none), ("column", .column, none),
   ("columns", .column, none), ("list", .list, none), ("semi", .semi, none),
   ("html", .html, none), ("insert", .insert, none), ("tcl", .tcl, some " "),
   ("csv", .csv, some ","), ("tabs", .list, some "\t")]

/-- Chooses a mode. Insert mode goes with a table, and no other mode with an argument. -/
def setMode (name : String) (table? : Option String) : Act Console Unit :=
  match (if name = "insert" then none else table?), modeNames.lookup name with
  | some a, _ => Act.complain (.misplacedArgument a)
  | none, none => Act.complain .unknownMode
  | none, some (mode, separator?) =>
    modifySettings fun s =>
      let table := Sql.quoteTableName (table?.getD "table").toList
      { s with
        mode
        separator := separator?.getD s.separator
        table := if mode = .insert then some (String.ofList table) else s.table }

/-- The list with `a` at place `i`, which is one of its places or the one after the last. -/
def putAt {α : Type} (i : Nat) (a : α) (l : List α) : List α :=
  if i < l.length then l.set i a else l ++ [a]

def setWidthsFrom (i : Nat) : List String → Act Console Unit
  | [] => pure ()
  | a :: rest => do
    let n ← integerArgument a
    modifySettings fun s => { s with widths := putAt i n s.widths }
    setWidthsFrom (i + 1) rest

def setWidths (arguments : List String) : Act Console Unit :=
  setWidthsFrom 0 (arguments.take maxColumns)

private def onOff (b : Bool) : List Char := if b then "on".toList else "off".toList

private def settingLine (name : String) (shown : List Char) : List Char :=
  Text.padLeft 9 (name.toList.take 9) ++ [':', ' '] ++ shown ++ ['\n']

/-- The settings, each on a line. Widths are shown up to the first that is left to the layout. -/
def settingLines (session : Session) : List (List Char) :=
  let s := session.settings
  let widths := (s.widths.take maxColumns).takeWhile (· != 0)
  [settingLine "echo" (onOff s.echo),
    settingLine "explain" (onOff s.beforeExplain.isSome),
    settingLine "headers" (onOff s.header),
    settingLine "mode" s.mode.name.toList,
    settingLine "nullvalue" (Text.quoteC s.nullvalue.toList),
    settingLine "output" session.output.name.toList,
    settingLine "separator" (Text.quoteC s.separator.toList),
    settingLine "stats" (onOff s.stats),
    settingLine "width" (widths.flatMap fun w => Sql.integerText w ++ [' '])]

end SqlConsole.Console

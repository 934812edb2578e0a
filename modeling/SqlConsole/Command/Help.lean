import SqlConsole.Command.Table
import SqlConsole.Text.Pad

/-! What the dot commands are for, in words. -/
namespace SqlConsole.Command

structure Topic where
  usage : String
  summary : String
  /-- Lines under the summary. -/
  more : List String := []
  /-- Lines shown only when the command is asked for by name. -/
  detail : List String := []
  deriving DecidableEq, Repr

def topic? : Command → Option Topic
  | backup => some
      { usage := ".backup ?DB? FILE"
        summary := "Backup DB (default \"main\") to FILE"
        detail :=
          ["Copies the pages of the database to FILE, replacing whatever it",
           "contained."] }
  | bail => some ⟨".bail ON|OFF", "Stop after hitting an error.  Default OFF", [], []⟩
  | breakpoint => none
  | databases => some ⟨".databases", "List names and files of attached databases", [], []⟩
  | dump => some
      { usage := ".dump ?TABLE? ..."
        summary := "Dump the database in an SQL text format"
        more := ["If TABLE specified, only dump tables matching", "LIKE pattern TABLE."] }
  | echo => some ⟨".echo ON|OFF", "Turn command echo on or off", [], []⟩
  | exit => some ⟨".exit", "Exit this program", [], []⟩
  | explain => some
      { usage := ".explain ?ON|OFF?"
        summary := "Turn output mode suitable for EXPLAIN on or off."
        more := ["With no args, it turns EXPLAIN on."] }
  | headers => some ⟨".header(s) ON|OFF", "Turn display of headers on or off", [], []⟩
  | help => some
      { usage := ".help ?COMMAND?"
        summary := "Show this message"
        detail := ["With a COMMAND name the longer description is shown as well."] }
  | import_ => some
      { usage := ".import FILE TABLE"
        summary := "Import data from FILE into TABLE"
        detail :=
          ["Each line of FILE is split on the current separator and must have as",
           "many fields as TABLE has columns.  Fields can be enclosed in double",
           "quotes.  Everything is done in one transaction which is rolled back if",
           "any line fails."] }
  | indices => some
      { usage := ".indices ?TABLE?"
        summary := "Show names of all indices"
        more := ["If TABLE specified, only show indices for tables",
                 "matching LIKE pattern TABLE."] }
  | load => some
      { usage := ".load FILE ?ENTRY?"
        summary := "Load an extension library"
        detail :=
          ["By default sqlite3_extension_init is called in the library but you can",
           "specify an alternate entry point."] }
  | log => some
      ⟨".log FILE|off", "Turn logging on or off.  FILE can be stderr/stdout", [], []⟩
  | mode => some
      { usage := ".mode MODE ?TABLE?"
        summary := "Set output mode where MODE is one of:"
        more :=
          ["  csv      Comma-separated values",
           "  column   Left-aligned columns.  (See .width)",
           "  html     HTML <table> code",
           "  insert   SQL insert statements for TABLE",
           "  line     One value per line",
           "  list     Values delimited by .separator string",
           "  tabs     Tab-separated values",
           "  tcl      TCL list elements"] }
  | nullvalue => some ⟨".nullvalue STRING", "Use STRING in place of NULL values", [], []⟩
  | output => some
      { usage := ".output FILENAME"
        summary := "Send output to FILENAME"
        more := [".output stdout         Send output to the screen"]
        detail := ["A FILENAME starting with | sends output to that shell command."] }
  | print => some ⟨".print STRING...", "Print literal STRING", [], []⟩
  | prompt => some ⟨".prompt MAIN CONTINUE", "Replace the standard prompts", [], []⟩
  | quit => some ⟨".quit", "Exit this program", [], []⟩
  | read => some ⟨".read FILENAME", "Execute SQL in FILENAME", [], []⟩
  | restore => some
      ⟨".restore ?DB? FILE", "Restore content of DB (default \"main\") from FILE", [], []⟩
  | schema => some
      { usage := ".schema ?TABLE?"
        summary := "Show the CREATE statements"
        more := ["If TABLE specified, only show tables matching", "LIKE pattern TABLE."] }
  | separator => some
      ⟨".separator STRING", "Change separator used by output mode and .import", [], []⟩
  | show_ => some ⟨".show", "Show the current values for various settings", [], []⟩
  | stats => some ⟨".stats ON|OFF", "Turn stats on or off", [], []⟩
  | tables => some
      { usage := ".tables ?TABLE?"
        summary := "List names of tables"
        more := ["If TABLE specified, only list tables matching", "LIKE pattern TABLE."] }
  | testctrl => some
      ⟨".testctrl CMD ...", "Run various sqlite3_test_control() operations", [], []⟩
  | timeout => some
      ⟨".timeout MS", "Try opening locked tables for MS milliseconds", [], []⟩
  | timer => some
      { usage := ".timer ON|OFF"
        summary := "Turn the CPU timer measurement on or off"
        detail := ["Time and resource usage is shown after each SQL statement."] }
  | trace => some ⟨".trace FILE|off", "Output each SQL statement as it is run", [], []⟩
  | version => some ⟨".version", "Show source, library and compiler versions", [], []⟩
  | vfsname => some ⟨".vfsname ?AUX?", "Print the name of the VFS stack", [], []⟩
  | width => some
      ⟨".width NUM1 NUM2 ...", "Set column widths for \"column\" mode", [], []⟩

/-- The help on a command as text. Lines under the summary stand where the summary starts, unless
they show another form of the command. -/
def Topic.text (withDetail : Bool) (e : Topic) : List Char :=
  let line (l : String) : List Char :=
    (if ['.'].isPrefixOf l.toList then [] else List.replicate 25 ' ') ++ l.toList ++ ['\n']
  Text.padRight 22 e.usage.toList ++ ' ' :: e.summary.toList ++ '\n' :: e.more.flatMap line ++
    if withDetail && !e.detail.isEmpty then
      '\n' :: e.detail.flatMap (fun l => l.toList ++ ['\n']) ++ ['\n']
    else []

def helpText : List Char := (all.filterMap topic?).flatMap (Topic.text false)

/-- The help on the command of that name; dots in front of it do not count. -/
def helpOn? (typed : String) : Option Topic :=
  let name := String.ofList (typed.toList.dropWhile (· == '.'))
  let name := if name = "header" then "headers" else name
  (all.find? (·.name == name)).bind topic?

end SqlConsole.Command

import SqlConsole.Engine.Error
import SqlConsole.Text.Digit
import SqlConsole.World.Sink

/-! What can go wrong, and the words for what the user is told. -/
namespace SqlConsole

inductive Complaint where
  | cannotOpen (file : String)
  | cannotOpenDatabase (file message : String)
  | sourceBusy
  | unknownOption (option : String)
  | tooManyArguments
  | missingFileName
  | noSuchCommand (name : String)
  | emptySeparator
  /-- The record that ends on that line has another number of fields than the table has columns. -/
  | fieldCount (file : String) (line expected found : Nat)
  | loadingUnsupported
  | misplacedArgument (argument : String)
  | unknownMode
  | unknownControl (name : String)
  | controlOptions (name : String) (one : Bool)
  | unsupportedControl (name : String)
  deriving DecidableEq, Repr

private def quoted (s : String) : String := "\"" ++ s ++ "\""

def Complaint.message : Complaint → String
  | cannotOpen file => "cannot open " ++ quoted file
  | cannotOpenDatabase file message => "unable to open database " ++ quoted file ++ ": " ++ message
  | sourceBusy => "source database is busy"
  | unknownOption option => "unknown option: " ++ option
  | tooManyArguments => "too many arguments to .backup"
  | missingFileName => "missing FILENAME argument on .backup"
  | noSuchCommand name => "No such command " ++ quoted name
  | emptySeparator => "non-null separator required for import"
  | fieldCount file line expected found =>
    file ++ " line " ++ Nat.repr line ++ ": expected " ++ Nat.repr expected ++
      " columns of data but found " ++ Nat.repr found
  | loadingUnsupported => "Extension loading is not supported"
  | misplacedArgument argument =>
    "invalid arguments:  " ++ quoted argument ++ ". Enter \".help\" for help"
  | unknownMode => "mode should be one of: column csv html insert line list tabs tcl"
  | unknownControl name => "invalid testctrl option: " ++ name
  | controlOptions name one =>
    "testctrl " ++ name ++ " takes " ++ if one then "a single option" else "no options"
  | unsupportedControl name => "CLI support for testctrl " ++ name ++ " not implemented"

inductive RowFault where
  /-- It has another number of values than such a row. -/
  | count
  | missing
  /-- A number or NULL stands where there should be text. -/
  | noText
  | blob
  /-- What should be shown as a name is not text. -/
  | noName
  deriving DecidableEq, Repr

/-- What ends an action before its end. -/
inductive Failure where
  | complaint (c : Complaint)
  | engine (e : Engine.Error)
  | interrupted
  | exit (code : Int)
  /-- An argument is not the number that it should be. -/
  | number (f : Text.NumberFault)
  /-- The character zero stands in a file name, or in text that the engine has to judge. -/
  | zeroCharacter
  | sink (k : Sink) (f : SinkFault)
  | undecodable
  /-- There is no value where one is read: in a column of a layout that goes by the first row, or
  after an option. -/
  | missingValue
  | catalogRow (f : RowFault)
  /-- Files that read files go deeper than the console follows. -/
  | tooDeep
  /-- What is done never comes to its end: a backup always has one more step, or a file grows while
  it is read. -/
  | endless
  deriving DecidableEq, Repr

/-- What the failure says to the user, if it is one that the user is told about. -/
def Failure.message? : Failure → Option String
  | complaint c => some c.message
  | engine e => some e.message
  | _ => none

def Failure.ofFault : Engine.Fault → Failure
  | .error e => engine e
  | .interrupted => interrupted

end SqlConsole

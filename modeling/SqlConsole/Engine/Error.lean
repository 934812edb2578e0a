/-! Errors that the database engine reports. -/
namespace SqlConsole.Engine

inductive ErrorKind where
  | general
  | sql
  | constraint
  | busy
  | locked
  | corrupt
  | interrupt
  | readOnly
  | io
  | full
  | notADatabase
  | mismatch
  | cantOpen
  | misuse
  | extensionLoading
  deriving DecidableEq, Repr

/-- The name that the engine gives a kind, and may put in front of its messages. -/
def ErrorKind.name : ErrorKind → String
  | .general => "Error"
  | .sql => "SQLError"
  | .constraint => "ConstraintError"
  | .busy => "BusyError"
  | .locked => "LockedError"
  | .corrupt => "CorruptError"
  | .interrupt => "InterruptError"
  | .readOnly => "ReadOnlyError"
  | .io => "IOError"
  | .full => "FullError"
  | .notADatabase => "NotADBError"
  | .mismatch => "MismatchError"
  | .cantOpen => "CantOpenError"
  | .misuse => "MisuseError"
  | .extensionLoading => "ExtensionLoadingError"

/-- The busy and the locked kind pass by themselves, so that it is worth trying again. -/
def ErrorKind.isTransient : ErrorKind → Bool
  | .busy => true
  | .locked => true
  | _ => false

structure Error where
  kind : ErrorKind
  text : String
  code : Option Int
  deriving DecidableEq, Repr

/-- What the text says after the name of the kind, where it starts with that. -/
def Error.message (e : Error) : String :=
  let lead := e.kind.name.toList ++ [':', ' ']
  if lead.isPrefixOf e.text.toList then String.ofList (e.text.toList.drop lead.length) else e.text

/-- What ends a call of the engine: an error, or the user who stops it. -/
inductive Fault where
  | error (e : Error)
  | interrupted
  deriving DecidableEq, Repr

end SqlConsole.Engine

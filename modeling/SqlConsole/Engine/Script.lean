import SqlConsole.Engine.Error
import SqlConsole.Sql.Value

/-! A database engine that answers from a script: what each SQL text gives, and what goes wrong. -/
namespace SqlConsole.Engine

structure Counters where
  fullScanSteps : Int := 0
  sorts : Int := 0
  automaticIndexes : Int := 0
  deriving DecidableEq, Repr

def Counters.add (a b : Counters) : Counters :=
  ⟨a.fullScanSteps + b.fullScanSteps, a.sorts + b.sorts, a.automaticIndexes + b.automaticIndexes⟩

structure Answer where
  sql : String
  columns : List String := []
  /-- The rows; without any list of rows a fault comes before the statement starts, with one it
  comes after the last row. -/
  rows : Option (List (List Sql.Value)) := none
  fault : Option Fault := none
  /-- What the engine tells its log: codes and messages. -/
  notices : List (Int × String) := []
  counters : Counters := {}
  deriving DecidableEq, Repr

inductive StepAnswer where
  | done
  | more
  | fault (f : Fault)
  deriving DecidableEq, Repr

/-- How a backup goes. The last step answer is given again and again. -/
inductive BackupAnswer where
  | refused (f : Fault)
  | steps (answers : List StepAnswer)
  deriving DecidableEq, Repr

/-- A value that the engine keeps count of, and the highest it has been. -/
structure Gauge where
  current : Int := 0
  highest : Int := 0
  deriving DecidableEq, Repr

structure MemoryStatus where
  used : Gauge := {}
  allocations : Gauge := {}
  cacheOverflow : Gauge := {}
  largest : Gauge := {}
  largestCachePage : Gauge := {}
  deriving DecidableEq, Repr

structure CacheStatus where
  used : Gauge := {}
  hits : Gauge := {}
  misses : Gauge := {}
  writes : Gauge := {}
  schemaUsed : Gauge := {}
  deriving DecidableEq, Repr

/-- All that the engine will say. -/
structure Script where
  answers : List Answer := []
  /-- Names of databases that cannot be opened. -/
  openFaults : List (String × Fault) := []
  backups : List BackupAnswer := []
  enableLoadFault : Option Fault := none
  loadFault : Option Fault := none
  /-- The file systems that databases are stored in. -/
  fileSystems : List (String × String) := [("main", "unix")]
  /-- The file systems that a database can be stored in. -/
  knownFileSystems : List String := ["unix", "memdb", "unix-excl", "unix-dotfile", "unix-none"]
  version : String := "3.99.1"
  sourceId : String :=
    "2031-02-03 04:05:06 0123456789abcdef0123456789abcdef0123456789abcdef0123456789abcdef"
  memory : MemoryStatus := {}
  cache : CacheStatus := {}
  deriving DecidableEq, Repr

namespace Script

/-- The list without the first answer to the given text. -/
def dropAnswer (sql : String) : List Answer → List Answer
  | [] => []
  | a :: r => if a.sql = sql then r else a :: dropAnswer sql r

/-- The answer to a text, and the script after it. Of several answers to one text the first is used
up; the last one stays. A text without an answer gives no rows. -/
def answer (s : Script) (sql : String) : Answer × Script :=
  match s.answers.filter (·.sql == sql) with
  | [] => ({ sql }, s)
  | [a] => (a, s)
  | a :: _ => (a, { s with answers := dropAnswer sql s.answers })

/-- How the next backup goes, and the script after it. When nothing is said the first step ends
it. -/
def backup (s : Script) : BackupAnswer × Script :=
  match s.backups with
  | [] => (.steps [.done], s)
  | b :: r => (b, { s with backups := r })

def openFault? (s : Script) (filename : String) : Option Fault := s.openFaults.lookup filename

def fileSystem? (s : Script) (database : String) : Option String := s.fileSystems.lookup database

/-- The version of the engine, and what its source is known by. -/
def versionText (s : Script) : String := s.version ++ " " ++ s.sourceId

/-- When the source of the engine was made, which is what its identification starts with. -/
def sourceDate (s : Script) : String := String.ofList (s.sourceId.toList.take 19)

end Script

end SqlConsole.Engine

import SqlConsole.Session.Basic
import SqlConsole.Sql.Value
import SqlConsole.Text.Pad

/-! What the engine and a statement counted, as text. -/
namespace SqlConsole.Execute

open Engine (Gauge Counters)

private def statisticLine (label : String) (text : List Char) : List Char :=
  Text.padRight 37 (label.toList ++ [':']) ++ text ++ ['\n']

private def bytesText (n : Int) : List Char := Sql.integerText n ++ " bytes".toList

private def maximumText (g : Gauge) : List Char :=
  Sql.integerText g.current ++ " (max ".toList ++ Sql.integerText g.highest ++ [')']

def memoryLines (m : Engine.MemoryStatus) : List (List Char) :=
  [statisticLine "Memory Used" (maximumText m.used ++ " bytes".toList),
    statisticLine "Number of Outstanding Allocations" (maximumText m.allocations),
    statisticLine "Number of Pcache Overflow Bytes"
      (maximumText m.cacheOverflow ++ " bytes".toList),
    statisticLine "Largest Allocation" (bytesText m.largest.highest),
    statisticLine "Largest Pcache Allocation" (bytesText m.largestCachePage.highest)]

def cacheLines (c : Engine.CacheStatus) : List (List Char) :=
  [statisticLine "Pager Heap Usage" (bytesText c.used.current),
    statisticLine "Page cache hits" (Sql.integerText c.hits.current),
    statisticLine "Page cache misses" (Sql.integerText c.misses.current),
    statisticLine "Page cache writes" (Sql.integerText c.writes.current),
    statisticLine "Schema Heap Usage" (bytesText c.schemaUsed.current)]

def countersLines (c : Counters) : List (List Char) :=
  [statisticLine "Fullscan Steps" (Sql.integerText c.fullScanSteps),
    statisticLine "Sort Operations" (Sql.integerText c.sorts),
    statisticLine "Autoindex Inserts" (Sql.integerText c.automaticIndexes)]

/-- What the engine and a statement counted, line by line: of the engine, of the connection if there is
one, and then of the statement if its counters are known. -/
def statisticLines (script : Engine.Script) (connected : Bool) (counters? : Option Counters) :
    List (List Char) :=
  memoryLines script.memory ++
    if connected then cacheLines script.cache ++ (counters?.map countersLines).getD [] else []

/-- Writes statistics to the session's output. -/
def writeStatistics {σ : Type} (session : Session) (connected : Bool)
    (counters? : Option Counters) : Act σ Unit := do
  let script := (← Act.world).script
  (statisticLines script connected counters?).forM (Act.write session.output)

end SqlConsole.Execute

/-! Where the console writes text, and what becomes of it there. -/
namespace SqlConsole

inductive Sink where
  | stdout
  | stderr
  /-- A file or command that the console opened, by its number. -/
  | opened (id : Nat) (name : String)
  deriving DecidableEq, Repr

def Sink.name : Sink → String
  | stdout => "stdout"
  | stderr => "stderr"
  | opened _ name => name

/-- The number of a sink that the console opened. -/
def Sink.id? : Sink → Option Nat
  | opened id _ => some id
  | _ => none

/-- A stream that is there from the start. -/
def Sink.isStream (k : Sink) : Bool := k.id?.isNone

/-- What becomes of bytes that are passed on to a file or command. -/
inductive Taking where
  | all
  /-- Only the first ones are taken, that many, as on a disk that gets full. -/
  | atMost (n : Nat)
  /-- None is taken, and not even that there is none, as by a command that has ended. -/
  | fails
  deriving DecidableEq, Repr

namespace Taking

/-- How many of so many bytes are taken. -/
def count : Taking → Nat → Nat
  | all, size => size
  | atMost n, size => min n size
  | fails, _ => 0

/-- So many bytes are not all taken. -/
def refuses : Taking → Nat → Bool
  | all, _ => false
  | atMost n, size => n < size
  | fails, _ => true

end Taking

/-- Why text does not get into a sink. -/
inductive SinkFault where
  /-- It has been closed. -/
  | closed
  /-- The file or the command does not take it. -/
  | refused
  deriving DecidableEq, Repr

end SqlConsole

import SqlConsole.World.Change
import SqlConsole.World.CommandLine
import SqlConsole.World.Files

/-! What commands do to the text that they are fed: they copy it or change it, into files. -/
namespace SqlConsole.World

/-- The contents of files one after the other. A dash stands for the input, which can be read
once. -/
def concatenate (contentOf : String → List UInt8) (input : List UInt8) : List String → List UInt8
  | [] => []
  | f :: r =>
    if f = "-" then input ++ concatenate contentOf [] r
    else contentOf f ++ concatenate contentOf input r

/-- What a command writes for the bytes that it reads. A command that is not known, or that cannot
do what it is asked for, writes nothing. No file is copied to itself. -/
def outputOf (fs : Files) (target? : Option Path) (words : List String) (input : List UInt8) :
    List UInt8 :=
  match words with
  | "cat" :: operands =>
    let contentOf (f : String) : List UInt8 :=
      match fs.spot f with
      | some (.file p) => if target? = some p then [] else (fs.content? p).getD []
      | _ => []
    let files := operands.filter (· != "-u")
    concatenate contentOf input (if files.isEmpty then ["-"] else files)
  | "tr" :: operands =>
    match Change.ofWords? operands with
    | some c => c.apply input
    | none => []
  | _ => []

namespace ShellCommand

/-- Connects streams to files in order: what is read, the path that the standard output goes to, and
the files then. None when a file cannot be opened. -/
private def connect (fs : Files) (input : List UInt8) (target? : Option Path) :
    List (Redirection × String) → Files × Option (List UInt8 × Option Path)
  | [] => (fs, some (input, target?))
  | (d, name) :: r =>
    let target (n : Nat) (p : Path) : Option Path := if n = 1 then some p else target?
    match d, fs.spot name with
    | .input, some (.file p) => connect fs ((fs.content? p).getD []) target? r
    | .output n, some (.file p) => connect (fs.put p []) input (target n p) r
    | .output n, some (.vacant p) => connect (fs.put p []) input (target n p) r
    | .appended n, some (.file p) => connect fs input (target n p) r
    | .appended n, some (.vacant p) => connect (fs.put p []) input (target n p) r
    | _, _ => (fs, none)

/-- Runs a command: what the next one reads, and the files after it. -/
def run (c : ShellCommand) (fs : Files) (input : List UInt8) : List UInt8 × Files :=
  match connect fs input none c.redirections with
  | (fs, none) => ([], fs)
  | (fs, some (input, target?)) =>
    let output := outputOf fs target? c.words input
    match target? with
    | none => (output, fs)
    | some p => ([], fs.put p ((fs.content? p).getD [] ++ output))

end ShellCommand

/-- The files after a command line was fed with bytes. What its last command writes to no file is
not kept. -/
def feed (line : String) (input : List UInt8) (fs : Files) : Files :=
  match ShellCommand.ofLine? line with
  | none => fs
  | some commands => (commands.foldl (fun (s, fs) c => c.run fs s) (input, fs)).2

end SqlConsole.World

import SqlConsole.Console.Program

/-! The command line. The console runs as one action; before it the files it may ask for are read,
and after it those it changed are written. No engine is linked in, so every statement gives no
rows. -/
namespace SqlConsole

/-- Names that a text may ask for as files: the words of its dot commands. -/
def mentioned (s : List Char) : List String :=
  (Text.lines s).flatMap fun l =>
    if l.head? = some '.' then (Command.words (Text.chomp l)).map String.ofList else []

/-- The path that a name without dots for folders stands for. -/
def plainPath (name : String) : World.Path :=
  ((World.splitName name.toList).map String.ofList).filter fun part => part ≠ "" && part ≠ "."

def bytesOf? (name : String) : IO (Option (List UInt8)) := do
  try
    let bytes ← IO.FS.readBinFile name
    pure (some bytes.toList)
  catch _ => pure none

def addFolder (fs : World.Files) (name : String) : IO World.Files := do
  let above := (plainPath name).dropLast
  if above.isEmpty then pure fs
  else
    try
      let place ← IO.FS.realPath ("/".intercalate above)
      if ← place.isDir then
        let folders := (List.range above.length).map fun n =>
          World.workingFolder ++ above.take (n + 1)
        pure { fs with folders := fs.folders ++ folders.filter fun p => !fs.isFolder p }
      else pure fs
    catch _ => pure fs

/-- Adds the files of the given names, and those that they ask for, at most `n` in all. -/
def addFiles : Nat → World.Files → List String → IO World.Files
  | 0, fs, _ => pure fs
  | _, fs, [] => pure fs
  | n + 1, fs, name :: rest => do
    let path := World.workingFolder ++ plainPath name
    if (fs.content? path).isSome then addFiles n fs rest
    else
      match ← bytesOf? name with
      | none => do addFiles n (← addFolder fs name) rest
      | some bytes => addFiles n (fs.add path bytes) (rest ++ mentioned (Text.decode bytes))

def writeChanged (before after : World.Files) : IO Unit :=
  after.contents.forM fun (path, bytes) =>
    match World.fromWorkingFolder? path with
    | some own =>
      if before.content? path = some bytes then pure ()
      else IO.FS.writeBinFile ("/".intercalate own) ⟨bytes.toArray⟩
    | none => pure ()

def writeStreams (deeds : List Deed) : IO Unit :=
  deeds.forM fun
    | .wrote .stdout text => IO.print text
    | .wrote .stderr text => IO.eprint text
    | _ => pure ()

def maxFiles : Nat := 10000

end SqlConsole

open SqlConsole in
def main (arguments : List String) : IO UInt32 := do
  let input ← (← IO.getStdin).readToEnd
  let names := Console.defaultInitFile :: arguments ++ arguments.flatMap (mentioned ·.toList) ++
    mentioned input.toList
  let files ← addFiles maxFiles {} names
  let (ending, scene) := Console.program arguments input.toList ⟨{ files }, {}⟩
  writeStreams scene.world.past.reverse
  writeChanged files scene.world.files
  match ending with
  | .ok code => pure (UInt32.ofNat (code % 256).toNat)
  | .error (.exit code) => pure (UInt32.ofNat (code % 256).toNat)
  | .error _ => pure 1

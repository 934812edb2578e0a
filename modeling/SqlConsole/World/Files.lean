/-! Names, files and folders. Names that do not start with a slash start from the working folder. -/
namespace SqlConsole.World

/-- The names that lead from the root to a file or folder. -/
abbrev Path := List String

/-- Files, and the folders that there are besides the usual ones. -/
structure Files where
  contents : List (Path × List UInt8) := []
  folders : List Path := []
  deriving DecidableEq, Repr

inductive Spot where
  | folder
  | file (p : Path)
  /-- Nothing yet, in a folder that exists. -/
  | vacant (p : Path)
  deriving DecidableEq, Repr

/-- A part of a name with more bytes than this does not exist and cannot be given. -/
def maxNameBytes : Nat := 255

/-- A name with more bytes than this leads nowhere, whatever its parts are. -/
def maxPathBytes : Nat := 4095

def workingFolder : Path := ["tmp", "work"]

def usualFolders : List Path :=
  [[], ["bin"], ["boot"], ["dev"], ["etc"], ["home"], ["lib"], ["media"], ["mnt"], ["opt"],
   ["proc"], ["root"], ["run"], ["sbin"], ["srv"], ["sys"], ["tmp"], ["usr"], ["var"]]

/-- The device that is always empty: what is put there is dropped. -/
def nullDevice : Path := ["dev", "null"]

/-- The path from the working folder, for what lies in it. -/
def fromWorkingFolder? (p : Path) : Option Path :=
  if workingFolder.isPrefixOf p then some (p.drop workingFolder.length) else none

def splitName (name : List Char) : List (List Char) :=
  name.foldr (fun c parts =>
    if c = '/' then [] :: parts
    else
      match parts with
      | [] => [[c]]
      | p :: ps => (c :: p) :: ps) [[]]

namespace Files

def isFolder (fs : Files) (p : Path) : Bool :=
  p == workingFolder || usualFolders.contains p || fs.folders.contains p

def content? (fs : Files) (p : Path) : Option (List UInt8) :=
  if p = nullDevice then some [] else fs.contents.lookup p

/-- Puts a file in place of what was there under its name. -/
def put (fs : Files) (p : Path) (bytes : List UInt8) : Files :=
  let rec replace : List (Path × List UInt8) → List (Path × List UInt8)
    | [] => [(p, bytes)]
    | (q, b) :: r => if q = p then (p, bytes) :: r else (q, b) :: replace r
  if p = nullDevice then fs else { fs with contents := replace fs.contents }

/-- A part of a name that stays in the folder it is in. -/
def isHere (part : String) : Bool := part = "" || part = "."

/-- What the remaining parts of a name lead to from the folder `base`. A part with nothing in it
and a single dot stay where they are; two dots go up, as far as the root. -/
def walk (fs : Files) (base : Path) : List String → Option Spot
  | [] => some .folder
  | part :: rest =>
    if isHere part then walk fs base rest
    else if part = ".." then walk fs base.dropLast rest
    else
      let p := base ++ [part]
      if fs.isFolder p then walk fs p rest
      else if !rest.isEmpty then none
      else if (fs.content? p).isSome then some (.file p)
      else if part.utf8ByteSize ≤ maxNameBytes then some (.vacant p)
      else none

def spot (fs : Files) (name : String) : Option Spot :=
  let parts := (splitName name.toList).map String.ofList
  if maxPathBytes < name.utf8ByteSize then none
  else
    match name.toList.head? with
    | none => none
    | some '/' => walk fs [] parts
    | some _ => walk fs workingFolder parts

def hasName (fs : Files) (name : String) : Bool :=
  match fs.spot name with
  | some .folder => true
  | some (.file _) => true
  | _ => false

/-- A file has that name, and not a folder or a device. -/
def hasFile (fs : Files) (name : String) : Bool :=
  match fs.spot name with
  | some (.file p) => p != nullDevice
  | _ => false

/-- Adds a file and the folders that its path goes through. -/
def add (fs : Files) (p : Path) (bytes : List UInt8) : Files :=
  let above := (List.range (p.length - 1)).map fun n => p.take (n + 1)
  { fs.put p bytes with folders := fs.folders ++ above.filter fun q => !fs.isFolder q }

end Files

/-- The bytes with `new` written at `offset` over what is there; a gap is filled with zeros. -/
def overwrite (old : List UInt8) (offset : Nat) (new : List UInt8) : List UInt8 :=
  old.take offset ++
    (List.replicate (offset - old.length) 0 ++ (new ++ old.drop (offset + new.length)))

end SqlConsole.World

import SqlConsole.World.ByteSet

/-! Changes of text byte by byte: bytes are deleted and replaced, and repetitions squeezed. -/
namespace SqlConsole.World

structure Change where
  deleted : List UInt8 := []
  /-- Bytes and what they become. The first entry for a byte holds. -/
  replacements : List (UInt8 × UInt8) := []
  /-- Of equal bytes in a row one stays. -/
  squeezed : List UInt8 := []
  deriving DecidableEq, Repr

namespace Change

/-- Keeps one of equal bytes in a row, where `last?` stands before them. -/
def squeeze (set : List UInt8) (last? : Option UInt8) : List UInt8 → List UInt8
  | [] => []
  | b :: r =>
    if last? = some b ∧ set.contains b then squeeze set last? r else b :: squeeze set (some b) r

def apply (c : Change) (s : List UInt8) : List UInt8 :=
  squeeze c.squeezed none
    ((s.filter fun b => !c.deleted.contains b).map fun b => (c.replacements.lookup b).getD b)

end Change

structure ChangeOptions where
  complement : Bool := false
  delete : Bool := false
  squeeze : Bool := false
  truncate : Bool := false
  deriving DecidableEq, Repr

namespace ChangeOptions

def add? (o : ChangeOptions) (word : String) : Option ChangeOptions :=
  match word with
  | "--complement" => some { o with complement := true }
  | "--delete" => some { o with delete := true }
  | "--squeeze-repeats" => some { o with squeeze := true }
  | "--truncate-set1" => some { o with truncate := true }
  | _ =>
    (word.toList.drop 1).foldlM (fun (o : ChangeOptions) c =>
      match c with
      | 'c' | 'C' => some { o with complement := true }
      | 'd' => some { o with delete := true }
      | 's' => some { o with squeeze := true }
      | 't' => some { o with truncate := true }
      | _ => none) o

def read? (o : ChangeOptions) : List String → Option (ChangeOptions × List String)
  | [] => some (o, [])
  | "--" :: r => some (o, r)
  | "-" :: r => some (o, "-" :: r)
  | w :: r => if w.toList.head? = some '-' then (o.add? w).bind (read? · r) else some (o, w :: r)

end ChangeOptions

/-- How many bytes the parts have, and the places among these that cases start at. -/
private def casePlaces (items : List ByteItem) : Nat × List Nat :=
  items.foldl (fun (n, found) i =>
    (n + (i.bytes 0).length,
      match i with
      | .members k => if k.isCase then n :: found else found
      | _ => found)) (0, [])

/-- Where the second list has a case, as far as the first one goes, that has one at the same
place. -/
private def isAligned (first second : List ByteItem) : Bool :=
  let (length, places) := casePlaces first
  (casePlaces second).2.all fun n => places.contains n || length < n

/-- The bytes of a list, or all others. -/
private def chosen (o : ChangeOptions) (items : List ByteItem) : List UInt8 :=
  let named := bytesOf 0 items
  if o.complement then allBytes.filter fun b => !named.contains b else named

/-- The replacement of the bytes of one list by those of another, whose last byte serves for all
further ones unless the first list is to be cut to the length of the second. The second list may
hold no class but a case across from a case, and cannot end in a class if it is the shorter one;
where the first list is all bytes outside of a class, all have to become the same byte. -/
private def replace? (o : ChangeOptions) (first second : List ByteItem) : Option Change :=
  let old := chosen o first
  let given := bytesOf old.length second
  let isShort := !o.truncate && given.length < old.length
  let new :=
    if isShort then given ++ List.replicate (old.length - given.length) (given.getLast?.getD 0)
    else given
  let isForeign (i : ByteItem) : Bool :=
    match i with
    | .members k => !k.isCase
    | .alike _ => true
    | _ => false
  let isMixed := new.length != old.length || !new.all (new.head? == some ·)
  if second.any isForeign || !(o.complement || isAligned first second) ||
    (isShort && (given.isEmpty || second.getLast?.any (·.isClass))) ||
    (o.complement && first.any (·.isClass) && isMixed) then none
  else
    some
      { replacements := (old.zip new).reverse
        squeezed := if o.squeeze then new else [] }

/-- The change that options and lists of bytes ask for; none when they do not go together. -/
def Change.ofWords? (words : List String) : Option Change := do
  let (o, operands) ← ChangeOptions.read? {} words
  match ← operands.mapM byteItems? with
  | first :: rest =>
    if first.any (·.isFilling) then none
    else
      match rest, o.delete, o.squeeze with
      | [], true, false => some { deleted := chosen o first }
      | [], false, true => some { squeezed := chosen o first }
      | [second], true, true =>
        if second.any (·.isFilling) then none
        else some { deleted := chosen o first, squeezed := bytesOf 0 second }
      | [second], false, _ =>
        if (second.filter (·.isFilling)).length ≤ 1 then replace? o first second else none
      | _, _, _ => none
  | [] => none

end SqlConsole.World

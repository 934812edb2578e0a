import SqlConsole.Text.CaseTable

/-! Lower case. -/
namespace SqlConsole.Text

private def inRuns (runs : List (Nat × Nat)) (c : Char) : Bool :=
  runs.any fun (a, b) => a ≤ c.toNat && c.toNat ≤ b

def isCased (c : Char) : Bool := inRuns casedRuns c

/-- The character is passed over when a neighbour is looked for. -/
def isPassedOver (c : Char) : Bool := inRuns passedOverRuns c

/-- The first character that counts as a neighbour has case. -/
def meetsCased (s : List Char) : Bool :=
  match s.dropWhile isPassedOver with
  | c :: _ => isCased c
  | [] => false

def capitalSigma : Char := '\u03a3'

/-- Capital I with a dot, whose lower case form has two characters. -/
def dottedCapitalI : Char := '\u0130'

def lowerChar (c : Char) : List Char :=
  if c = dottedCapitalI then ['i', '\u0307']
  else
    match lowerRuns.find? fun r =>
        r.first ≤ c.toNat && c.toNat ≤ r.last && (c.toNat - r.first) % r.step == 0 with
    | some r => [Char.ofNat (c.toNat + r.shift).toNat]
    | none => [c]

/-- Lower case of `s`, where `before` is what precedes it, nearest first. A capital sigma that ends
a word becomes the final form. -/
def lowerAfter (before : List Char) : List Char → List Char
  | [] => []
  | c :: r =>
    let form :=
      if c = capitalSigma then
        if meetsCased before && !meetsCased r then ['\u03c2'] else ['\u03c3']
      else lowerChar c
    form ++ lowerAfter (c :: before) r

def lower (s : List Char) : List Char := lowerAfter [] s

end SqlConsole.Text

import SqlConsole.Text.Doubled

/-! Writing fields of delimited records. -/
namespace SqlConsole.Delimited

def occursIn (mark : List Char) : List Char → Bool
  | [] => mark.isEmpty
  | c :: r => mark.isPrefixOf (c :: r) || occursIn mark r

/-- A field has to be quoted when it holds the separator, a quote, or anything but printable ASCII.
The empty separator occurs nowhere. -/
def needsQuote (separator s : List Char) : Bool :=
  (!separator.isEmpty && occursIn separator s) ||
    s.any fun c => c == '"' || c.toNat < 32 || 127 ≤ c.toNat

def field (separator s : List Char) : List Char :=
  if needsQuote separator s then Text.enclose '"' s else s

end SqlConsole.Delimited

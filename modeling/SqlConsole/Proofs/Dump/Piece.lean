import SqlConsole.Dump
import SqlConsole.Proofs.Engine.Replies

/-! What a dumped script is made of, and which answers of the engine each piece comes from. -/
namespace SqlConsole
namespace Engine

/-- The text ends well where no rows of it are taken. -/
def Answer.Succeeds (a : Answer) : Prop := (a.rows.getD []).isEmpty → a.fault = none

end Engine

namespace Dump
open Engine (Answer)
open Sql (Value)

def savepointText : String := "SAVEPOINT dump; PRAGMA writable_schema=ON"

def releaseText : String := "PRAGMA writable_schema=OFF; RELEASE dump;"

/-- The text asks for the columns of a table. -/
def asksColumns (sql : String) : Bool := "PRAGMA table_info(".toList.isPrefixOf sql.toList

/-- The answer to a text that asks for the columns of a table, which has none. -/
def isColumnless (a : Answer) : Bool :=
  asksColumns a.sql && (a.rows.getD []).isEmpty && a.fault.isNone

/-- A row that describes a column has no text for its name, or a row of the catalog is not a name, a
kind and a text. -/
def Misshapen (a : Answer) : Prop :=
  ∃ values ∈ a.rows.getD [],
    if asksColumns a.sql then ∀ name, values[1]? ≠ some (.text name)
    else ∀ name kind sql, values ≠ [.text name, kind, .text sql]

/-- The failure comes from the answer. -/
inductive Blames (a : Answer) : Failure → Prop
  | engine {e : Engine.Error} (h : a.fault = some (.error e)) : Blames a (.engine e)
  | interrupted (h : a.fault = some .interrupted) : Blames a .interrupted
  | row (f : RowFault) (h : Misshapen a) : Blames a (.catalogRow f)

/-- What is written between the opening and the end of the script. -/
inductive Piece where
  | create (sql : String)
  | catalogOn
  | virtualTable (name sql : String)
  /-- The keys that the engine made of itself are to be replaced. -/
  | keys
  | statistics
  | row (values : List Value)
  | corruption (e : Engine.Error)
  | catalogError (e : Engine.Error)
  | rowError (e : Engine.Error)
  /-- A text that the engine runs, where statements are traced to the same sink. -/
  | traced (sql : String)
  /-- What the engine logs, where that goes to the same sink. -/
  | logged (notice : Int × String)
  deriving DecidableEq, Repr

namespace Piece

def text : Piece → List Char
  | create sql => (sql ++ ";").toList ++ ['\n']
  | catalogOn => "PRAGMA writable_schema=ON;".toList ++ ['\n']
  | virtualTable name sql =>
    "INSERT INTO sqlite_master(type, name, tbl_name, rootpage, sql) VALUES('table', ".toList ++
      Sql.quoteString name.toList ++ ", ".toList ++ Sql.quoteString name.toList ++ ", 0, ".toList ++
      Sql.quoteString sql.toList ++ ");\n".toList
  | keys => "DELETE FROM sqlite_sequence;\n".toList
  | statistics => "ANALYZE sqlite_master;".toList ++ ['\n']
  | row values => rowStatement values
  | corruption e =>
    "/****** CORRUPTION ERROR *******/\n".toList ++
      "/****** ".toList ++ e.message.toList ++ " ******/\n".toList
  | catalogError e => "/****** ERROR: ".toList ++ e.message.toList ++ " ******/\n".toList
  | rowError e =>
    "/**** ERROR: (".toList ++ Sql.integerText (e.code.getD (-1)) ++ ") ".toList ++
      e.message.toList ++ " *****/\n".toList
  | traced sql => sql.toList ++ ['\n']
  | logged notice =>
    '(' :: Sql.integerText notice.1 ++ [')', ' '] ++ notice.2.toList ++ ['\n']

/-- The piece is a comment on an error that is counted. -/
def isError : Piece → Bool
  | catalogError _ => true
  | rowError _ => true
  | _ => false

/-- The piece has to do with writing to the catalog. -/
def isCatalog : Piece → Bool
  | catalogOn => true
  | virtualTable _ _ => true
  | _ => false

/-- The piece is no part of the script itself. -/
def isAside : Piece → Bool
  | traced _ => true
  | logged _ => true
  | _ => false

/-- The piece is text of the database, or a text that the engine is given. -/
def isQuoted : Piece → Bool
  | create _ => true
  | row _ => true
  | traced _ => true
  | _ => false

/-- The text begins like a comment on an error that is counted. -/
def tellsError (text : List Char) : Bool :=
  "/****** ERROR:".toList.isPrefixOf text || "/**** ERROR:".toList.isPrefixOf text

/-- Apart from what is only quoted the comments on errors are told by how they begin. -/
theorem isError_eq (p : Piece) : p.isError = (!p.isQuoted && tellsError p.text) := by
  cases p <;> rfl

theorem countP_asides {asides : List Piece} (h : ∀ p ∈ asides, p.isAside) :
    asides.countP (·.isError) = 0 := by
  refine List.countP_eq_zero.2 fun p hp => ?_
  have := h p hp
  cases p <;> simp_all [isAside, isError]

theorem isCatalog_of_isAside {p : Piece} (h : p.isAside) : p.isCatalog = false := by
  cases p <;> simp_all [isAside, isCatalog]

/-- The piece comes from these answers of the engine. -/
def Stems (session : Session) (heard : List Answer) : Piece → Prop
  | create sql => ∃ a ∈ heard, ∃ name kind, [name, kind, .text sql] ∈ a.rows.getD []
  | catalogOn => True
  | virtualTable name sql => ∃ a ∈ heard, ∃ kind, [.text name, kind, .text sql] ∈ a.rows.getD []
  | keys => ∃ a ∈ heard, ∃ kind sql, [.text "sqlite_sequence", kind, sql] ∈ a.rows.getD []
  | statistics => ∃ a ∈ heard, ∃ kind sql, [.text "sqlite_stat1", kind, sql] ∈ a.rows.getD []
  | row values => ∃ a ∈ heard, values ∈ a.rows.getD []
  | corruption e => e.kind = .corrupt ∧ ∃ a ∈ heard, a.fault = some (.error e)
  | catalogError e => ∃ a ∈ heard, a.fault = some (.error e)
  | rowError e => ∃ a ∈ heard, a.fault = some (.error e)
  | traced sql => session.trace = some session.output ∧ ∃ a ∈ heard, a.sql = sql
  | logged notice => session.log = some session.output ∧ ∃ a ∈ heard, notice ∈ a.notices

theorem Stems.mono {session : Session} {heard heard' : List Answer} {p : Piece}
    (h : p.Stems session heard) (hsub : heard ⊆ heard') : p.Stems session heard' := by
  cases p with
  | catalogOn => trivial
  | corruption e => exact ⟨h.1, h.2.imp fun a ha => ⟨hsub ha.1, ha.2⟩⟩
  | traced sql => exact ⟨h.1, h.2.imp fun a ha => ⟨hsub ha.1, ha.2⟩⟩
  | logged notice => exact ⟨h.1, h.2.imp fun a ha => ⟨hsub ha.1, ha.2⟩⟩
  | _ => exact Exists.imp (fun a ha => ⟨hsub ha.1, ha.2⟩) h

end Piece

/-- The catalog is made writable once, and right after that a first virtual table is put there. -/
def Orderly : Bool → List Piece → Prop
  | false, pieces => ∀ p ∈ pieces, p.isCatalog = false
  | true, pieces => ∃ before name sql after,
      pieces = before ++ .catalogOn :: .virtualTable name sql :: after ∧
        (∀ p ∈ before, p.isCatalog = false) ∧ .catalogOn ∉ after

namespace Orderly
variable {writable : Bool} {pieces : List Piece}

theorem concat (h : Orderly writable pieces) {p : Piece} (hp : p.isCatalog = false) :
    Orderly writable (pieces ++ [p]) := by
  cases writable with
  | false =>
    intro q hq
    rcases List.mem_append.1 hq with hq | hq
    · exact h q hq
    · rwa [List.mem_singleton.1 hq]
  | true =>
    obtain ⟨before, name, sql, after, rfl, hbefore, hafter⟩ := h
    refine ⟨before, name, sql, after ++ [p], by simp, hbefore, ?_⟩
    simp only [List.mem_append, List.mem_singleton, not_or]
    refine ⟨hafter, ?_⟩
    rintro rfl
    cases hp

theorem prepend (h : Orderly writable pieces) {opening : List Piece}
    (hopening : ∀ p ∈ opening, p.isCatalog = false) : Orderly writable (opening ++ pieces) := by
  have happend {before : List Piece} (hbefore : ∀ p ∈ before, p.isCatalog = false) :
      ∀ p ∈ opening ++ before, p.isCatalog = false := fun p hp =>
    (List.mem_append.1 hp).elim (hopening p) (hbefore p)
  cases writable with
  | false => exact happend h
  | true =>
    obtain ⟨before, name, sql, after, rfl, hbefore, hafter⟩ := h
    exact ⟨opening ++ before, name, sql, after, by simp, happend hbefore, hafter⟩

theorem concat_virtualTable (h : Orderly true pieces) (name sql : String) :
    Orderly true (pieces ++ [.virtualTable name sql]) := by
  obtain ⟨before, name', sql', after, rfl, hbefore, hafter⟩ := h
  exact ⟨before, name', sql', after ++ [.virtualTable name sql], by simp, hbefore,
    by simpa using hafter⟩

theorem concat_catalogOn (h : Orderly false pieces) (name sql : String) :
    Orderly true (pieces ++ [.catalogOn] ++ [.virtualTable name sql]) :=
  ⟨pieces, name, sql, [], by simp, h, by simp⟩

end Orderly

/-- The script makes the catalog writable at most once, and it does so if and only if it puts virtual
tables there, before the first of them. -/
structure OpensCatalog (pieces : List Piece) : Prop where
  once : pieces.count .catalogOn ≤ 1
  needed : .catalogOn ∈ pieces ↔ ∃ name sql, .virtualTable name sql ∈ pieces
  first : ∀ before name sql after, pieces = before ++ .virtualTable name sql :: after →
    .catalogOn ∈ before

theorem Orderly.mem_catalogOn {writable : Bool} {pieces : List Piece} (h : Orderly writable pieces) :
    .catalogOn ∈ pieces ↔ writable := by
  cases writable with
  | false =>
    have hmem : .catalogOn ∉ pieces := fun hmem => absurd (h _ hmem) (by decide)
    simpa using hmem
  | true =>
    obtain ⟨before, name, sql, after, rfl, -, -⟩ := h
    simp

theorem Orderly.opensCatalog {writable : Bool} {pieces : List Piece}
    (h : Orderly writable pieces) : OpensCatalog pieces := by
  cases writable with
  | false =>
    have hmem : .catalogOn ∉ pieces := fun hmem => absurd (h _ hmem) (by decide)
    have htable (name sql : String) : .virtualTable name sql ∉ pieces :=
      fun hmem => absurd (h _ hmem) (by simp [Piece.isCatalog])
    refine ⟨by simp [List.count_eq_zero.2 hmem], by simp [hmem, htable], ?_⟩
    rintro before name sql after rfl
    exact absurd (List.mem_append_right before List.mem_cons_self) (htable name sql)
  | true =>
    obtain ⟨before, name, sql, after, rfl, hbefore, hafter⟩ := h
    have hon : .catalogOn ∉ before := fun hmem => absurd (hbefore _ hmem) (by decide)
    refine ⟨?_, ⟨fun _ => ⟨name, sql, by simp⟩, fun _ => by simp⟩, ?_⟩
    · simp [List.count_append, List.count_eq_zero.2 hon, List.count_eq_zero.2 hafter]
    · intro before' name' sql' after' hsplit
      rcases List.append_eq_append_iff.1 hsplit with ⟨t, rfl, ht⟩ | ⟨t, rfl, ht⟩
      · -- the table would come after `catalogOn`, or be it
        cases t with
        | nil => simp at ht
        | cons p t =>
          obtain ⟨rfl, -⟩ : Piece.catalogOn = p ∧ _ := by simpa using ht
          simp
      · cases t with
        | nil => simp at ht
        | cons p t =>
          obtain ⟨rfl, -⟩ : .virtualTable name' sql' = p ∧ _ := by simpa using ht
          have hmem : .virtualTable name' sql' ∈ before' ++ .virtualTable name' sql' :: t := by simp
          exact absurd (hbefore _ hmem) (by simp [Piece.isCatalog])

end Dump
end SqlConsole

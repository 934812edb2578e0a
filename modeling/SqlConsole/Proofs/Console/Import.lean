import Mathlib
import SqlConsole.Proofs.Console.Records
import SqlConsole.Proofs.Delimited.Spans
import SqlConsole.Proofs.Execute.Frame

/-! What the engine is given when a file is read into a table. -/
namespace SqlConsole.Console
open Delimited (Record)
open Execute (perform columnCount)
open Sql (Value)

/-- What an import works with once all is prepared. -/
structure Import where
  session : Session
  db : Connection
  file : String
  table : String
  columns : Nat
  source : Source

namespace Import

def selection (table : String) : String := "SELECT * FROM " ++ table

def insertion (i : Import) : String :=
  "INSERT INTO " ++ i.table ++ " VALUES(" ++
    String.ofList ([','].intercalate (List.replicate i.columns ['?'])) ++ ")"

def fields (i : Import) (r : Record) : List (List Char) :=
  Delimited.fields i.session.settings.separator.toList r.text

/-- The insertion of a record, with its fields for the marks. -/
def statement (i : Import) (r : Record) : String × List Value :=
  (i.insertion, (i.fields r).map fun f => .text (String.ofList f))

/-- Both statements can be prepared, the table has columns, and the file can be opened. -/
def Prepares (i : Import) (s s' : Scene Console) : Prop :=
  ∃ s₁ s₂ s₃ n, connection s = (.ok i.db, s₁) ∧ s₁.own.session = i.session ∧
    columnCount i.session (selection i.table) [] s₁ = (.ok i.columns, s₂) ∧ i.columns ≠ 0 ∧
    columnCount i.session i.insertion (List.replicate i.columns .null) s₂ = (.ok n, s₃) ∧
    Act.openSource? i.file .kept s₃ = (.ok (some i.source), s')

/-- Each of the records has as many fields as the table has columns, and the engine inserts it. -/
inductive Inserts (i : Import) : List Record → Scene Console → Scene Console → Prop
  | nil (s : Scene Console) : i.Inserts [] s s
  | cons {r : Record} {rs : List Record} {s s₁ s₂ : Scene Console}
      (hcount : (i.fields r).length = i.columns)
      (hr : perform i.session i.db (i.statement r).1 (i.statement r).2 s = (.ok (), s₁))
      (h : i.Inserts rs s₁ s₂) : i.Inserts (r :: rs) s s₂

/-- A record with another number of fields is not given to the engine; any other one may fail
there. -/
inductive Refuses (i : Import) (r : Record) (s : Scene Console) :
    List (String × List Value) → Failure → Scene Console → Prop
  | count (hcount : (i.fields r).length ≠ i.columns) :
      i.Refuses r s []
        (.complaint (.fieldCount i.file r.line i.columns (i.fields r).length)) s
  | engine {e : Failure} {s' : Scene Console} (hcount : (i.fields r).length = i.columns)
      (hr : perform i.session i.db (i.statement r).1 (i.statement r).2 s = (.error e, s')) :
      i.Refuses r s [i.statement r] e s'

/-- The transaction is undone and the import fails with `e`, unless the undoing fails as well. -/
def undo (i : Import) (e : Failure) : Act Console Unit := do
  perform i.session i.db "ROLLBACK" []
  Act.fail e

/-- How a transaction goes on that has begun: what the engine is given from then on, and how it all
ends. It is committed if all records were inserted, and undone by the first one that is not. -/
inductive Transacts (i : Import) : List Record → Scene Console → List (String × List Value) →
    Except Failure Unit × Scene Console → Prop
  | committed {rs : List Record} {s s₁ : Scene Console} (h : i.Inserts rs s s₁) :
      i.Transacts rs s (rs.map i.statement ++ [("COMMIT", [])])
        (perform i.session i.db "COMMIT" [] s₁)
  | undone {done left : List Record} {r : Record} {s s₁ s₂ : Scene Console}
      {given : List (String × List Value)} {e : Failure} (h : i.Inserts done s s₁)
      (hr : i.Refuses r s₁ given e s₂) :
      i.Transacts (done ++ r :: left) s (done.map i.statement ++ given ++ [("ROLLBACK", [])])
        (i.undo e s₂)

end Import

open Import

theorem frames_connection (session : Session) : Execute.Frames session connection := by
  refine .bind .own fun c => ?_
  cases c.db with
  | some db => exact .pure db
  | none =>
    refine .bind (.modifyOwn _) fun _ => .bind (.note rfl) fun _ => .bind .world fun w => ?_
    cases w.script.openFault? _ with
    | none => exact .bind (.modifyOwn _) fun _ => .pure _
    | some fault =>
      cases fault with
      | error e => exact .fail _
      | interrupted => exact .fail _

theorem frames_openSource? (session : Session) (name : String) (ends : Text.LineEnds) :
    Execute.Frames session (Act.openSource? name ends : Act Console (Option Source)) := by
  refine .bind ?_ fun _ => .bind .world fun w => ?_
  · show Execute.Frames session
      (if name.toList.contains '\x00' then Act.fail .zeroCharacter else pure () : Act Console Unit)
    split
    · exact .fail _
    · exact .pure ()
  · split
    · exact .pure _
    · exact .pure none

/-- Of a file that has been opened nothing has been read. -/
theorem openSource?_eq {name : String} {ends : Text.LineEnds} {s s' : Scene Console}
    {source : Source} (h : Act.openSource? name ends s = (.ok (some source), s')) :
    source = { path := source.path, reader := { ends } } := by
  have hends : Act.Ensures (fun _ => True) (Act.openSource? name ends)
      (fun found (_ : Scene Console) =>
        ∀ source, found = some source → source = { path := source.path, reader := { ends } })
      (fun _ _ => True) := by
    refine .bind (fun _ _ => Act.Ends.any _) fun _ =>
      .bind (.world (Q := fun _ _ => True) fun _ h => h) fun w => ?_
    split
    · refine .pure fun s _ source hfound => ?_
      cases hfound
      rfl
    · refine .pure fun s _ source hfound => ?_
      cases hfound
  exact hends.apply_ok trivial h source rfl

namespace Import
variable {i : Import} {s s₁ : Scene Console}

private theorem own_apply (s : Scene Console) :
    (Act.own : Act Console Console) s = (.ok s.own, s) := rfl

/-- Where all is prepared, what is left to do is the transaction. -/
theorem importFile_of_prepares (h : i.Prepares s s₁)
    (hsep : s.own.session.settings.separator.isEmpty = false) :
    importFile i.file i.table s =
      insertAll i.session i.db i.file i.insertion i.columns i.source s₁ := by
  obtain ⟨s₂, s₃, s₄, n, hdb, hsession, hselect, hcolumns, hinsert, hsource⟩ := h
  unfold selection at hselect
  unfold insertion at hinsert
  rw [importFile, Act.bind_ok (own_apply s), hsep]
  simp only [Bool.false_eq_true, if_false]
  rw [Act.bind_ok hdb, Act.bind_ok (own_apply s₂), hsession, Act.bind_ok hselect, if_pos hcolumns,
    Act.bind_ok hinsert, Act.bind_ok hsource]
  rfl

theorem executed_of_prepares (h : i.Prepares s s₁) : s₁.world.executed = s.world.executed := by
  obtain ⟨s₂, s₃, s₄, n, hdb, -, hselect, -, hinsert, hsource⟩ := h
  calc s₁.world.executed
    _ = s₄.world.executed := ((frames_openSource? i.session i.file .kept).leaves hsource).executed
    _ = s₃.world.executed := ((Execute.frames_columnCount i.session _ _).leaves hinsert).executed
    _ = s₂.world.executed := ((Execute.frames_columnCount i.session _ _).leaves hselect).executed
    _ = s.world.executed := ((frames_connection i.session).leaves hdb).executed

/-- Where something is not prepared, the engine is given nothing to run. -/
theorem executed_of_not_prepares {file table : String}
    (h : ¬ ∃ (i : Import) (s₁ : Scene Console), i.file = file ∧ i.table = table ∧ i.Prepares s s₁) :
    (importFile file table s).2.world.executed = s.world.executed := by
  rw [importFile, Act.bind_ok (own_apply s)]
  split
  · rfl
  rcases hdb : connection s with ⟨e | db, s₁⟩
  · rw [Act.bind_error hdb]
    exact ((frames_connection s.own.session).leaves hdb).executed
  have hs₁ := ((frames_connection s₁.own.session).leaves hdb).executed
  rw [Act.bind_ok hdb, Act.bind_ok (own_apply s₁)]
  dsimp only
  generalize hsession : s₁.own.session = session
  rcases hselect : columnCount session (selection table) [] s₁ with ⟨e | columns, s₂⟩ <;>
    have hs₂ := ((Execute.frames_columnCount session _ _).leaves hselect).executed.trans hs₁ <;>
    unfold selection at hselect
  · rw [Act.bind_error hselect]
    exact hs₂
  rw [Act.bind_ok hselect]
  split
  case isFalse => exact hs₂
  case isTrue hcolumns =>
  rcases hinsert : columnCount session _ (List.replicate columns Value.null) s₂ with ⟨e | n, s₃⟩ <;>
    have hs₃ := ((Execute.frames_columnCount session _ _).leaves hinsert).executed.trans hs₂
  · rw [Act.bind_error hinsert]
    exact hs₃
  rw [Act.bind_ok hinsert]
  rcases hsource : Act.openSource? file .kept s₃ with ⟨e | source?, s₄⟩ <;>
    have hs₄ := ((frames_openSource? session file .kept).leaves hsource).executed.trans hs₃
  · rw [Act.bind_error hsource]
    exact hs₄
  rw [Act.bind_ok hsource]
  cases source? with
  | none => exact hs₄
  | some source =>
    refine absurd ?_ h
    exact ⟨⟨session, db, file, table, columns, source⟩, s₄, rfl, rfl, s₁, s₂, s₃, n, hdb, hsession,
      hselect, hcolumns, hinsert, hsource⟩

/-- What is done with each record of the file. -/
def insert (i : Import) : Record → Act Console Unit :=
  insertRecord i.session i.db i.file i.insertion i.columns

theorem insert_cases (i : Import) (r : Record) (s : Scene Console) :
    (∃ s₁, (i.fields r).length = i.columns ∧ i.insert r s = (.ok (), s₁) ∧
      perform i.session i.db (i.statement r).1 (i.statement r).2 s = (.ok (), s₁)) ∨
    ∃ given e s₁, i.Refuses r s given e s₁ ∧ i.insert r s = (.error e, s₁) := by
  by_cases hcount : (i.fields r).length = i.columns
  · have hinsert : i.insert r s =
        perform i.session i.db (i.statement r).1 (i.statement r).2 s := by
      rw [insert, insertRecord]
      exact congrFun (if_neg (not_not.2 hcount)) s
    rcases hr : perform i.session i.db (i.statement r).1 (i.statement r).2 s with ⟨e | ⟨⟩, s₁⟩
    · exact .inr ⟨_, e, s₁, .engine hcount hr, hinsert.trans hr⟩
    · exact .inl ⟨s₁, hcount, hinsert.trans hr, rfl⟩
  · refine .inr ⟨_, _, s, .count hcount, ?_⟩
    rw [insert, insertRecord]
    exact congrFun (if_pos hcount) s

theorem forM_insert_cases (i : Import) (rs : List Record) (s : Scene Console) :
    (∃ s₁, rs.forM i.insert s = (.ok (), s₁) ∧ i.Inserts rs s s₁) ∨
    ∃ done r left s₁ given e s₂, rs = done ++ r :: left ∧ i.Inserts done s s₁ ∧
      i.Refuses r s₁ given e s₂ ∧ rs.forM i.insert s = (.error e, s₂) := by
  induction rs generalizing s with
  | nil => exact .inl ⟨s, rfl, .nil s⟩
  | cons r rs ih =>
    rcases insert_cases i r s with ⟨s₁, hcount, hinsert, hr⟩ | ⟨given, e, s₁, hrefuses, hinsert⟩
    · have hforM : (r :: rs).forM i.insert s = rs.forM i.insert s₁ := Act.bind_ok hinsert _
      rcases ih s₁ with ⟨s₂, hrest, hinserts⟩ |
        ⟨done, r', left, s₂, given, e, s₃, rfl, hinserts, hrefuses, hrest⟩
      · exact .inl ⟨s₂, hforM.trans hrest, .cons hcount hr hinserts⟩
      · exact .inr ⟨r :: done, r', left, s₂, given, e, s₃, rfl, .cons hcount hr hinserts, hrefuses,
          hforM.trans hrest⟩
    · exact .inr ⟨[], r, rs, s, given, e, s₁, rfl, .nil s, hrefuses, Act.bind_error hinsert _⟩

theorem Inserts.executed {rs : List Record} (h : i.Inserts rs s s₁) :
    s₁.world.executed = s.world.executed ++ rs.map i.statement := by
  induction h with
  | nil s => simp
  | cons hcount hr h ih => rw [ih, Execute.executed_perform hr]; simp

theorem Refuses.executed {r : Record} {given : List (String × List Value)} {e : Failure}
    (h : i.Refuses r s given e s₁) : s₁.world.executed = s.world.executed ++ given := by
  cases h with
  | count hcount => simp
  | engine hcount hr => exact Execute.executed_perform hr

theorem executed_undo (i : Import) (e : Failure) (s : Scene Console) :
    (i.undo e s).2.world.executed = s.world.executed ++ [("ROLLBACK", [])] := by
  rcases hrollback : perform i.session i.db "ROLLBACK" [] s with ⟨e' | ⟨⟩, s₁⟩
  · rw [undo, Act.bind_error hrollback, Execute.executed_perform hrollback]
  · rw [undo, Act.bind_ok hrollback, ← Execute.executed_perform hrollback]
    rfl

theorem Transacts.executed {rs : List Record} {given : List (String × List Value)}
    {result : Except Failure Unit × Scene Console} (h : i.Transacts rs s given result) :
    result.2.world.executed = s.world.executed ++ given := by
  cases h with
  | @committed _ _ s₁ h =>
    rcases hcommit : perform i.session i.db "COMMIT" [] s₁ with ⟨r, s₂⟩
    rw [Execute.executed_perform hcommit, h.executed, List.append_assoc]
  | undone h hr =>
    rw [executed_undo, hr.executed, h.executed]
    simp

/-- The file stays as it is while its records are inserted. -/
private theorem insert_harmless (i : Import) (path : World.Path) (bytes : List UInt8) :
    Harmless i.insert path bytes fun s =>
      s.world.files.content? path = some bytes ∧ s.world.Spares i.session path where
  content s hs := hs.1
  keeps r s hs := by
    have hperform {x : Except Failure Unit} {s₁ : Scene Console}
        (hr : perform i.session i.db (i.statement r).1 (i.statement r).2 s = (x, s₁)) :
        s₁.world.files.content? path = some bytes ∧ s₁.world.Spares i.session path := by
      obtain ⟨hspares, hcontent⟩ := Execute.spares_perform hr hs.2
      exact ⟨hcontent.trans hs.1, hspares⟩
    rcases insert_cases i r s with ⟨s₁, -, hinsert, hr⟩ | ⟨given, e, s₁, hrefuses, hinsert⟩
    · rw [hinsert]
      exact hperform hr
    · rw [hinsert]
      cases hrefuses with
      | count hcount => exact hs
      | engine hcount hr => exact hperform hr

/-- What ends a transaction, by how the records fared. -/
def conclude (i : Import) : Except Failure Unit → Act Console Unit
  | .ok _ => perform i.session i.db "COMMIT" []
  | .error e => i.undo e

/-- The records of the file are inserted one after the other. -/
def records (i : Import) : Act Console Unit := do
  insertRecords i.insert (← Act.lineLimit i.source) {} i.source

theorem insertAll_eq_conclude (i : Import) :
    insertAll i.session i.db i.file i.insertion i.columns i.source = (do
      perform i.session i.db "BEGIN" []
      i.conclude (← Act.attempt i.records)) := by
  unfold insertAll
  refine bind_congr fun _ => bind_congr fun ending => ?_
  cases ending <;> rfl

theorem insertAll_eq {s₂ s₃ : Scene Console} {x : Except Failure Unit}
    (hbegin : perform i.session i.db "BEGIN" [] s₁ = (.ok (), s₂)) (hrecords : i.records s₂ = (x, s₃)) :
    insertAll i.session i.db i.file i.insertion i.columns i.source s₁ = i.conclude x s₃ := by
  have hattempt : Act.attempt i.records s₂ = (.ok x, s₃) := by rw [Act.attempt, hrecords]
  rw [insertAll_eq_conclude, Act.bind_ok hbegin, Act.bind_ok hattempt]

/-- A transaction that has begun is committed or undone, as its records have it. -/
theorem transacts_insertAll {text : List Char} {s₂ : Scene Console}
    (hbegin : perform i.session i.db "BEGIN" [] s₁ = (.ok (), s₂))
    (hcontent : s₁.world.files.content? i.source.path = some (Text.utf8 text))
    (hspares : s₁.world.Spares i.session i.source.path)
    (hsource : i.source = { path := i.source.path, reader := { ends := .kept } }) :
    ∃ given, i.Transacts (Delimited.records text) s₂ given
      (insertAll i.session i.db i.file i.insertion i.columns i.source s₁) := by
  obtain ⟨hspares₂, hcontent₂⟩ := Execute.spares_perform hbegin hspares
  have hrecords : i.records s₂ = (Delimited.records text).forM i.insert s₂ :=
    insertRecords_eq (insert_harmless i i.source.path _) ⟨hcontent₂.trans hcontent, hspares₂⟩ rfl
      hsource
  rcases forM_insert_cases i (Delimited.records text) s₂ with ⟨s₃, hforM, hinserts⟩ |
    ⟨done, r, left, s₃, given, e, s₄, hrs, hinserts, hrefuses, hforM⟩
  · refine ⟨(Delimited.records text).map i.statement ++ [("COMMIT", [])], ?_⟩
    rw [insertAll_eq hbegin (hrecords.trans hforM)]
    exact .committed hinserts
  · refine ⟨done.map i.statement ++ given ++ [("ROLLBACK", [])], ?_⟩
    rw [insertAll_eq hbegin (hrecords.trans hforM), hrs]
    exact .undone hinserts hrefuses

/-- A console whose engine knows a table `t` of two columns, and in whose working folder a file `f`
holds the text. -/
def sampleScene (text : String) (answers : List Engine.Answer) : Scene Console where
  world :=
    { script := { answers := { sql := "SELECT * FROM t", columns := ["a", "b"] } :: answers }
      files := { contents := [(["tmp", "work", "f"], Text.utf8 text.toList)] } }
  own := { db := some { filename := ":memory:" } }

def sample : Import where
  session := {}
  db := { filename := ":memory:" }
  file := "f"
  table := "t"
  columns := 2
  source := { path := ["tmp", "work", "f"], reader := { ends := .kept } }

/-- Without all prepared the engine is given nothing to run. Otherwise it is given the insertion of
each record of the file in turn, once the transaction has begun, up to the first one that is not
inserted; the transaction is committed or undone. The file must not be one that the session itself
writes to meanwhile. -/
theorem importFile_transacts (file table : String) (s : Scene Console)
    (hsep : s.own.session.settings.separator.isEmpty = false) :
    ((¬ ∃ (i : Import) (s₁ : Scene Console), i.file = file ∧ i.table = table ∧ i.Prepares s s₁) →
      (importFile file table s).2.world.executed = s.world.executed) ∧
    ∀ (i : Import) (s₁ : Scene Console), i.file = file → i.table = table → i.Prepares s s₁ →
      s₁.world.executed = s.world.executed ∧
      (∀ e s₂, perform i.session i.db "BEGIN" [] s₁ = (.error e, s₂) →
        importFile file table s = (.error e, s₂) ∧
          s₂.world.executed = s.world.executed ++ [("BEGIN", [])]) ∧
      ∀ s₂ text, perform i.session i.db "BEGIN" [] s₁ = (.ok (), s₂) →
        s₁.world.files.content? i.source.path = some (Text.utf8 text) →
        s₁.world.Spares i.session i.source.path →
        Delimited.Spans 0 (Text.anyLines text) (Delimited.records text) ∧
        ∃ given, i.Transacts (Delimited.records text) s₂ given (importFile file table s) ∧
          (importFile file table s).2.world.executed =
            s.world.executed ++ ("BEGIN", []) :: given := by
  refine ⟨executed_of_not_prepares, ?_⟩
  rintro i s₁ rfl rfl hprepares
  have hs₁ := executed_of_prepares hprepares
  rw [importFile_of_prepares hprepares hsep]
  refine ⟨hs₁, fun e s₂ hbegin => ⟨?_, ?_⟩, fun s₂ text hbegin hcontent hspares =>
    ⟨Delimited.spans_records text, ?_⟩⟩
  · rw [insertAll, Act.bind_error hbegin]
  · rw [Execute.executed_perform hbegin, hs₁]
  · obtain ⟨s₃, s₄, s₅, n, -, -, -, -, -, hsource⟩ := hprepares
    obtain ⟨given, htransacts⟩ :=
      transacts_insertAll hbegin hcontent hspares (openSource?_eq hsource)
    refine ⟨given, htransacts, ?_⟩
    rw [htransacts.executed, Execute.executed_perform hbegin, hs₁]
    simp

/-- The second record has one field, where the table has two columns. -/
theorem importFile_transacts_short :
    let s := sampleScene "1|2\nx\n" []
    ∃ s₁ s₂, sample.Prepares s s₁ ∧ perform sample.session sample.db "BEGIN" [] s₁ = (.ok (), s₂) ∧
      ∃ given, sample.Transacts [⟨1, ['1', '|', '2']⟩, ⟨2, ['x']⟩] s₂ given (importFile "f" "t" s) ∧
        (importFile "f" "t" s).2.world.executed = ("BEGIN", []) :: given := by
  intro s
  obtain ⟨s₁, s₂, hprepares, hbegin, hcontent, hspares⟩ : ∃ s₁ s₂, sample.Prepares s s₁ ∧
      perform sample.session sample.db "BEGIN" [] s₁ = (.ok (), s₂) ∧
      s₁.world.files.content? sample.source.path = some (Text.utf8 "1|2\nx\n".toList) ∧
      s₁.world.Spares sample.session sample.source.path := by
    refine ⟨_, _, ⟨_, _, _, _, rfl, rfl, rfl, by decide, rfl, rfl⟩, rfl, rfl, ?_⟩
    rintro k (hk | hk) <;> cases hk
  obtain ⟨-, hprepared⟩ := importFile_transacts "f" "t" s (by decide)
  obtain ⟨-, -, hbegun⟩ := hprepared sample s₁ rfl rfl hprepares
  obtain ⟨-, given, htransacts, hexecuted⟩ := hbegun s₂ _ hbegin hcontent hspares
  have hrecords : Delimited.records "1|2\nx\n".toList =
      [⟨1, ['1', '|', '2']⟩, ⟨2, ['x']⟩] := by decide
  rw [hrecords] at htransacts
  exact ⟨s₁, s₂, hprepares, hbegin, given, htransacts, hexecuted⟩

/-- Where the transaction cannot be undone, that is what is reported, and not the short record. -/
theorem importFile_undo_refused :
    let s := sampleScene "x\n" [{
      sql := "ROLLBACK", fault := some (.error ⟨.io, "disk I/O error", none⟩) }]
    (∃ s₁ s₂, sample.Prepares s s₁ ∧
      perform sample.session sample.db "BEGIN" [] s₁ = (.ok (), s₂)) ∧
      Delimited.records ['x', '\n'] = [⟨1, ['x']⟩] ∧ (sample.fields ⟨1, ['x']⟩).length = 1 ∧
      (importFile "f" "t" s).1 ≠ .error (.complaint (.fieldCount "f" 1 2 1)) := by
  intro s
  refine ⟨⟨_, _, ⟨_, _, _, _, rfl, rfl, rfl, by decide, rfl, rfl⟩, rfl⟩, by decide, by decide, ?_⟩
  have hresult : (importFile "f" "t" s).1 = .error (.engine ⟨.io, "disk I/O error", none⟩) := by
    cbv
  rw [hresult]
  simp

/-- An import that has begun its transaction ends it by undoing it or by committing it, and a commit
decides how the import itself ends. -/
theorem importFile_ends {i : Import} {s s₁ s₂ : Scene Console}
    (hsep : s.own.session.settings.separator.isEmpty = false) (hprepares : i.Prepares s s₁)
    (hbegin : perform i.session i.db "BEGIN" [] s₁ = (.ok (), s₂)) :
    let result := importFile i.file i.table s
    result.2.world.executed.getLast? = some ("ROLLBACK", []) ∨
      result.2.world.executed.getLast? = some ("COMMIT", []) ∧
        ∃ s₃, result = perform i.session i.db "COMMIT" [] s₃ := by
  intro result
  have hresult : result = insertAll i.session i.db i.file i.insertion i.columns i.source s₁ :=
    importFile_of_prepares hprepares hsep
  rcases hrecords : i.records s₂ with ⟨e | ⟨⟩, s₃⟩ <;> rw [hresult, insertAll_eq hbegin hrecords]
  · left
    rw [conclude, executed_undo, List.getLast?_concat]
  · right
    rcases hcommit : perform i.session i.db "COMMIT" [] s₃ with ⟨x, s₄⟩
    rw [conclude, hcommit, Execute.executed_perform hcommit, List.getLast?_concat]
    exact ⟨rfl, s₃, hcommit.symm⟩

theorem importFile_ends_short :
    let s := sampleScene "x\n" []
    let result := importFile sample.file sample.table s
    (∃ s₁ s₂, sample.Prepares s s₁ ∧
      perform sample.session sample.db "BEGIN" [] s₁ = (.ok (), s₂)) ∧
      (result.2.world.executed.getLast? = some ("ROLLBACK", []) ∨
        result.2.world.executed.getLast? = some ("COMMIT", []) ∧
          ∃ s₃, result = perform sample.session sample.db "COMMIT" [] s₃) := by
  intro s result
  obtain ⟨s₁, s₂, hprepares, hbegin⟩ : ∃ s₁ s₂, sample.Prepares s s₁ ∧
      perform sample.session sample.db "BEGIN" [] s₁ = (.ok (), s₂) :=
    ⟨_, _, ⟨_, _, _, _, rfl, rfl, rfl, by decide, rfl, rfl⟩, rfl⟩
  exact ⟨⟨s₁, s₂, hprepares, hbegin⟩, importFile_ends (by decide) hprepares hbegin⟩

/-- A commit that is refused leaves the transaction open. -/
theorem importFile_commit_refused :
    let s := sampleScene "1|2\n" [{
      sql := "COMMIT", fault := some (.error ⟨.busy, "database is locked", some 5⟩) }]
    (importFile "f" "t" s).1 = .error (.engine ⟨.busy, "database is locked", some 5⟩) ∧
      (importFile "f" "t" s).2.world.executed =
        [("BEGIN", []), ("INSERT INTO t VALUES(?,?)", [.text "1", .text "2"]), ("COMMIT", [])] := by
  constructor <;> cbv

end Import
end SqlConsole.Console

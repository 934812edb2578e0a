import SqlConsole.Dump
import SqlConsole.Proofs.Execute.Candid

/-! A dump that is interrupted comes to the interrupt, unless the end of its savepoint fails. -/
namespace SqlConsole.Dump
open Act (Candid CandidUnless)
open Execute (candid_gather candid_perform candid_query candid_require)
open Sql (Value)

variable {I : Option String → Prop} (session : Session) (db : Connection)

theorem candid_put (text : List Char) : Candid I (put session text) := .write _ _

theorem candid_putLine (text : String) : Candid I (putLine session text) := .write _ _

theorem candid_countError : Candid I countError := .modifyOwn _

theorem candid_rows (query : String) (opening : List Char) (bindings : List Value) :
    Candid I (rows session db query opening bindings) := by
  refine .attempt (candid_query ?_ ..) (fun ending => ?_) fun s => rfl
  · intro _ index values
    have hrow : Candid I (do
        put session (rowStatement values)
        pure false) := .bind (candid_put ..) fun _ => .pure false
    dsimp only
    split
    · exact .bind (candid_put ..) fun _ => hrow
    · exact hrow
  · split
    · exact .pure none
    · exact .bind (candid_put ..) fun _ => .bind candid_countError fun _ => .pure _
    · exact .fail _

theorem candid_contentQuery (table : String) : Candid I (contentQuery session db table) := by
  refine .bind (candid_gather ..) fun columns => ?_
  split
  · exact .pure none
  · exact .bind (candid_require _) fun _ => .pure _

theorem candid_content (table : String) (opening : List Char) :
    Candid I (content session db table opening) := by
  refine .bind (candid_contentQuery ..) fun query? => ?_
  cases query? with
  | none => exact candid_countError
  | some query =>
    refine .bind (candid_rows ..) fun error? => ?_
    cases error? with
    | none => exact .pure ()
    | some e =>
      dsimp only
      split
      · exact .discard (candid_rows ..)
      · exact .pure ()

theorem candid_object (name kind sql : Value) : Candid I (object session db name kind sql) := by
  have hcontent (table : String) (opening : List Char) :
      Candid I (if kind = .text "table" then content session db table opening else pure ()) := by
    split
    · exact candid_content ..
    · exact .pure ()
  unfold object
  dsimp only
  split
  · exact hcontent _ _
  · exact .bind (candid_putLine ..) fun _ => hcontent _ _
  · refine .bind (candid_require _) fun name => ?_
    split
    · refine .bind (candid_require _) fun sql => ?_
      split
      · refine .bind .own fun tally => ?_
        split
        · exact .bind (candid_putLine ..) fun _ => .bind (.modifyOwn _) fun _ => candid_put ..
        · exact .bind (.pure ()) fun _ => candid_put ..
      · exact .bind (candid_putLine ..) fun _ => hcontent _ _
    · exact .pure ()

theorem candid_listed (query : String) (bindings : List Value) :
    Candid I (listed session db query bindings) := by
  refine candid_query ?_ ..
  intro _ _ values
  split
  · exact .bind (candid_object ..) fun _ => .pure false
  · exact .bind (.fail _) fun _ => .pure false

theorem candid_objects (query : String) (bindings : List Value) :
    Candid I (objects session db query bindings) := by
  have hreport (e : Engine.Error) : Candid I (do
      put session (catalogErrorText e)
      countError) := .bind (candid_put ..) fun _ => candid_countError
  refine .attempt (candid_listed ..) (fun ending => ?_) fun s => rfl
  split
  · exact .pure ()
  · split
    · refine .bind (candid_put ..) fun _ => .attempt (candid_listed ..) (fun again => ?_) fun s => rfl
      split
      · exact .pure ()
      · exact hreport _
      · exact .fail _
    · exact hreport _
  · exact .fail _

theorem candid_body (patterns : List String) : Candid I (body session db patterns) := by
  unfold body
  split
  · exact .bind (candid_objects ..) fun _ => .bind (candid_objects ..) fun _ =>
      .discard (candid_rows ..)
  · exact .forM (fun _ => .bind (candid_objects ..) fun _ => .discard (candid_rows ..)) _

theorem candid_release : Candid I (release session db) := by
  refine .bind .own fun tally => ?_
  split
  · exact .bind (candid_putLine ..) fun _ => .bind (.modifyOwn _) fun _ => candid_perform ..
  · exact candid_perform ..

/-- What a dump starts with. -/
def opening : Act Tally Unit := do
  Act.modifyOwn fun _ => {}
  putLine session "PRAGMA foreign_keys=OFF;"
  putLine session "BEGIN TRANSACTION;"
  Execute.perform session db "SAVEPOINT dump; PRAGMA writable_schema=ON" []

/-- What a dump ends with, when its savepoint has been released. -/
def closing : Act Tally Nat := do
  let errors := (← Act.own).errors
  putLine session (if errors = 0 then "COMMIT;" else "ROLLBACK; -- due to errors")
  pure errors

theorem script_eq (patterns : List String) : script session db patterns =
    opening session db >>= fun _ =>
      (body session db patterns).ensuring (release session db) >>= fun _ => closing session := by
  simp only [opening, bind_assoc]
  rfl

theorem candid_opening : Candid I (opening session db) :=
  .bind (.modifyOwn _) fun _ => .bind (candid_putLine ..) fun _ => .bind (candid_putLine ..) fun _ =>
    candid_perform ..

theorem candid_closing : Candid I (closing session) :=
  .bind .own fun _ => .bind (candid_putLine ..) fun _ => .pure _

/-- The dump is interrupted in its body, and then its savepoint cannot be released. -/
def Gapes (patterns : List String) (s : Scene Tally) : Prop :=
  ∃ s₁ s₂, opening session db s = (.ok (), s₁) ∧
    body session db patterns s₁ = (.error .interrupted, s₂) ∧ (release session db).Fails s₂

theorem candid_script (patterns : List String) :
    CandidUnless I (Gapes session db patterns) (script session db patterns) := by
  rw [script_eq]
  refine .after (candid_opening session db) fun _ =>
    .before (.mono (.ensuring (candid_body session db patterns)
    (candid_release session db)) ?_) fun _ => candid_closing session
  rintro s₁ ⟨s₂, hbody, hrelease⟩ s hs
  exact ⟨s₁, s₂, hs, hbody, hrelease⟩

end SqlConsole.Dump

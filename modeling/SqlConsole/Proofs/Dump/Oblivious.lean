import SqlConsole.Dump
import SqlConsole.Proofs.Execute.Oblivious

/-! A dump does not go by what was done before it. -/
namespace SqlConsole.Dump
open Act (Oblivious)
open Execute (oblivious_gather oblivious_perform oblivious_query oblivious_require)
open Sql (Value)

variable (session : Session) (db : Connection)

theorem oblivious_put (text : List Char) : Oblivious (put session text) := .write _ _

theorem oblivious_putLine (text : String) : Oblivious (putLine session text) := .write _ _

theorem oblivious_countError : Oblivious countError := .modifyOwn _

theorem oblivious_rows (query : String) (opening : List Char) (bindings : List Value) :
    Oblivious (rows session db query opening bindings) := by
  refine .bind (.attempt (oblivious_query ?_ ..)) fun ending => ?_
  · intro _ index values
    have hrow : Oblivious (do
        put session (rowStatement values)
        pure false) := .bind (oblivious_put ..) fun _ => .pure false
    dsimp only
    split
    · exact .bind (oblivious_put ..) fun _ => hrow
    · exact hrow
  · split
    · exact .pure none
    · exact .bind (oblivious_put ..) fun _ => .bind oblivious_countError fun _ => .pure _
    · exact .fail _

theorem oblivious_contentQuery (table : String) : Oblivious (contentQuery session db table) := by
  refine .bind (oblivious_gather ..) fun columns => ?_
  split
  · exact .pure none
  · exact .bind (oblivious_require _) fun _ => .pure _

theorem oblivious_content (table : String) (opening : List Char) :
    Oblivious (content session db table opening) := by
  refine .bind (oblivious_contentQuery ..) fun query? => ?_
  cases query? with
  | none => exact oblivious_countError
  | some query =>
    refine .bind (oblivious_rows ..) fun error? => ?_
    cases error? with
    | none => exact .pure ()
    | some e =>
      dsimp only
      split
      · exact .discard (oblivious_rows ..)
      · exact .pure ()

theorem oblivious_object (name kind sql : Value) :
    Oblivious (object session db name kind sql) := by
  have hcontent (table : String) (opening : List Char) :
      Oblivious (if kind = .text "table" then content session db table opening else pure ()) := by
    split
    · exact oblivious_content ..
    · exact .pure ()
  unfold object
  dsimp only
  split
  · exact hcontent _ _
  · exact .bind (oblivious_putLine ..) fun _ => hcontent _ _
  · refine .bind (oblivious_require _) fun name => ?_
    split
    · refine .bind (oblivious_require _) fun sql => ?_
      split
      · refine .bind .own fun tally => ?_
        split
        · exact .bind (oblivious_putLine ..) fun _ => .bind (.modifyOwn _) fun _ => oblivious_put ..
        · exact .bind (.pure ()) fun _ => oblivious_put ..
      · exact .bind (oblivious_putLine ..) fun _ => hcontent _ _
    · exact .pure ()

theorem oblivious_listed (query : String) (bindings : List Value) :
    Oblivious (listed session db query bindings) := by
  refine oblivious_query ?_ ..
  intro _ _ values
  split
  · exact .bind (oblivious_object ..) fun _ => .pure false
  · exact .bind (.fail _) fun _ => .pure false

theorem oblivious_objects (query : String) (bindings : List Value) :
    Oblivious (objects session db query bindings) := by
  have hreport (e : Engine.Error) : Oblivious (do
      put session (catalogErrorText e)
      countError) := .bind (oblivious_put ..) fun _ => oblivious_countError
  refine .bind (.attempt (oblivious_listed ..)) fun ending => ?_
  split
  · exact .pure ()
  · split
    · refine .bind (oblivious_put ..) fun _ => .bind (.attempt (oblivious_listed ..)) fun again => ?_
      split
      · exact .pure ()
      · exact hreport _
      · exact .fail _
    · exact hreport _
  · exact .fail _

theorem oblivious_body (patterns : List String) : Oblivious (body session db patterns) := by
  unfold body
  split
  · exact .bind (oblivious_objects ..) fun _ => .bind (oblivious_objects ..) fun _ =>
      .discard (oblivious_rows ..)
  · exact .forM (fun _ => .bind (oblivious_objects ..) fun _ => .discard (oblivious_rows ..)) _

theorem oblivious_release : Oblivious (release session db) := by
  refine .bind .own fun tally => ?_
  split
  · exact .bind (oblivious_putLine ..) fun _ => .bind (.modifyOwn _) fun _ => oblivious_perform ..
  · exact oblivious_perform ..

theorem oblivious_script (patterns : List String) : Oblivious (script session db patterns) := by
  refine .bind (.modifyOwn _) fun _ => .bind (oblivious_putLine ..) fun _ => ?_
  refine .bind (oblivious_putLine ..) fun _ => .bind (oblivious_perform ..) fun _ => ?_
  refine .bind (.ensuring (oblivious_body ..) (oblivious_release ..)) fun _ => ?_
  exact .bind .own fun _ => .bind (oblivious_putLine ..) fun _ => .pure _

end SqlConsole.Dump

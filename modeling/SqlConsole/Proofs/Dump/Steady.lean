import SqlConsole.Dump
import SqlConsole.Proofs.Execute.Steady

/-! Dumps over two connections, of which one may be traced and the other one not. -/
namespace SqlConsole.Dump
open Act (Agrees Respects)
open Execute (Paired)
open Scene (Related)
open Sql (Value)

variable {K : Option Nat → Prop} {W : World → World → Prop} {session : Session} {db db' : Connection}
  (h : Paired K W session db db')
include h

theorem respects_put (text : List Char) : Respects (Related W Eq) (put session text) := h.write _

theorem respects_putLine (text : String) : Respects (Related W Eq) (putLine session text) := h.write _

omit h in
theorem respects_countError : Respects (Related W Eq) countError := .modifyOwn_same _

theorem agrees_rows (query : String) (opening : List Char) (bindings : List Value) :
    Agrees (Related W Eq) (rows session db query opening bindings)
      (rows session db' query opening bindings) := by
  refine .bind (.attempt (h.query ?_ query bindings)) fun ending => ?_
  · intro _ index values
    have hrow : Respects (Related W Eq) (do
        put session (rowStatement values)
        pure false) := .bind (respects_put h _) fun _ => .pure false
    dsimp only
    split
    · exact .bind (respects_put h _) fun _ => hrow
    · exact hrow
  · split
    · exact .pure none
    · exact .bind (respects_put h _) fun _ => .bind respects_countError fun _ => .pure _
    · exact .fail _

theorem agrees_contentQuery (table : String) :
    Agrees (Related W Eq) (contentQuery session db table) (contentQuery session db' table) := by
  refine .bind (h.gather _ _ _) fun columns => ?_
  split
  · exact .pure none
  · exact .bind (Paired.require _) fun _ => .pure _

theorem agrees_content (table : String) (opening : List Char) :
    Agrees (Related W Eq) (content session db table opening) (content session db' table opening) := by
  refine .bind (agrees_contentQuery h table) fun query? => ?_
  cases query? with
  | none => exact respects_countError
  | some query =>
    refine .bind (agrees_rows h _ _ _) fun error? => ?_
    cases error? with
    | none => exact .pure ()
    | some e =>
      dsimp only
      split
      · exact .discard (agrees_rows h _ _ _)
      · exact .pure ()

theorem agrees_object (name kind sql : Value) :
    Agrees (Related W Eq) (object session db name kind sql) (object session db' name kind sql) := by
  have hcontent (table : String) (opening : List Char) : Agrees (Related W Eq)
      (if kind = .text "table" then content session db table opening else pure ())
      (if kind = .text "table" then content session db' table opening else pure ()) := by
    split
    · exact agrees_content h _ _
    · exact .pure ()
  unfold object
  dsimp only
  split
  · exact hcontent _ _
  · exact .bind (respects_putLine h _) fun _ => hcontent _ _
  · refine .bind (Paired.require _) fun name => ?_
    split
    · refine .bind (Paired.require _) fun sql => ?_
      split
      · refine .own_same fun tally => ?_
        split
        · exact .bind (respects_putLine h _) fun _ => .bind (.modifyOwn_same _) fun _ => respects_put h _
        · exact .bind (.pure ()) fun _ => respects_put h _
      · exact .bind (respects_putLine h _) fun _ => hcontent _ _
    · exact .pure ()

theorem agrees_listed (query : String) (bindings : List Value) :
    Agrees (Related W Eq) (listed session db query bindings) (listed session db' query bindings) := by
  refine h.query ?_ query bindings
  intro _ _ values
  split
  · exact .bind (agrees_object h _ _ _) fun _ => .pure false
  · exact .bind (.fail _) fun _ => .pure false

theorem agrees_objects (query : String) (bindings : List Value) :
    Agrees (Related W Eq) (objects session db query bindings) (objects session db' query bindings) := by
  have hreport (e : Engine.Error) : Respects (Related W Eq) (do
      put session (catalogErrorText e)
      countError) := .bind (respects_put h _) fun _ => respects_countError
  refine .bind (.attempt (agrees_listed h _ _)) fun ending => ?_
  split
  · exact .pure ()
  · split
    · refine .bind (respects_put h _) fun _ => .bind (.attempt (agrees_listed h _ _)) fun again => ?_
      split
      · exact .pure ()
      · exact hreport _
      · exact .fail _
    · exact hreport _
  · exact .fail _

theorem agrees_body (patterns : List String) :
    Agrees (Related W Eq) (body session db patterns) (body session db' patterns) := by
  unfold body
  split
  · exact .bind (agrees_objects h _ _) fun _ => .bind (agrees_objects h _ _) fun _ =>
      .discard (agrees_rows h _ _ _)
  · exact .forM fun _ _ => .bind (agrees_objects h _ _) fun _ => .discard (agrees_rows h _ _ _)

theorem agrees_release : Agrees (Related W Eq) (release session db) (release session db') := by
  refine .own_of fun tally _ heq => ?_
  subst heq
  split
  · exact .bind (respects_putLine h _) fun _ => .bind (.modifyOwn_same _) fun _ => h.perform _ _
  · exact h.perform _ _

theorem agrees_script (patterns : List String) :
    Agrees (Related W Eq) (script session db patterns) (script session db' patterns) := by
  refine .bind (.modifyOwn_same _) fun _ => .bind (respects_putLine h _) fun _ => ?_
  refine .bind (respects_putLine h _) fun _ => .bind (h.perform _ _) fun _ => ?_
  refine .bind (.ensuring (agrees_body h patterns) (agrees_release h)) fun _ => ?_
  exact .own_same fun _ => .bind (respects_putLine h _) fun _ => .pure _

end SqlConsole.Dump

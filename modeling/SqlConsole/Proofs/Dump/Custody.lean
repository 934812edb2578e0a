import SqlConsole.Dump
import SqlConsole.Proofs.Execute.Custody

/-! A dump opens and closes nothing. Besides what the engine reports, it fails only at a row of the catalog
that is not as it should be. -/
namespace SqlConsole.Dump
open Act (Safe)

variable {o : Origin} {held : List Sink} {links : Links} {O : Tally → Prop} {session : Session}
  {F : Failure → Prop} (h : o.Serves held links session F) (hrow : ∀ f, F (.catalogRow f))
  {db : Connection}

private theorem safe_modifyTally (f : Tally → Tally) :
    Safe (o.At held links fun _ => True) F (Act.modifyOwn f) := .modifyOwn fun _ hs => hs

include h

theorem safe_put (text : List Char) : Safe (o.At held links O) F (put session text) :=
  Execute.safe_writeOutput h text

theorem safe_putLine (text : String) : Safe (o.At held links O) F (putLine session text) :=
  safe_put h _

theorem safe_rows (query : String) (opening : List Char) (bindings : List Sql.Value) :
    Safe (o.At held links fun _ => True) F (rows session db query opening bindings) := by
  refine .attempt (Execute.safe_query h (fun _ index values _ => ?_) query bindings)
    (fun _ => .pure none) fun f hf => ?_
  · have hstatement : Safe (o.At held links fun _ => True) F (do
        put session (rowStatement values)
        pure false) := .bind (safe_put h _) fun _ => .pure false
    split
    · exact .bind (safe_put h _) fun _ => hstatement
    · exact hstatement
  · cases f with
    | engine e => exact .bind (safe_put h _) fun _ => .bind (safe_modifyTally _) fun _ => .pure (some e)
    | _ => exact .fail hf

include hrow

theorem safe_contentQuery (table : String) :
    Safe (o.At held links O) F (contentQuery session db table) := by
  refine .bind (Execute.safe_gather h (fun _ _ _ => hrow _) _ _) fun columns => ?_
  split
  · exact .pure none
  · exact .bind (Execute.safe_require _ fun _ _ => hrow _) fun _ => .pure _

theorem safe_content (table : String) (opening : List Char) :
    Safe (o.At held links fun _ => True) F (content session db table opening) := by
  refine .bind (safe_contentQuery h hrow table) fun query? => ?_
  cases query? with
  | none => exact safe_modifyTally _
  | some query =>
    refine .bind (safe_rows h _ _ _) fun e? => ?_
    cases e? with
    | none => exact .pure ()
    | some e =>
      dsimp only
      split
      · exact .discard (safe_rows h _ _ _)
      · exact .pure ()

theorem safe_object (name kind sql : Sql.Value) :
    Safe (o.At held links fun _ => True) F (object session db name kind sql) := by
  have hcontent (table : String) (opening : List Char) :
      Safe (o.At held links fun _ => True) F
        (if kind = .text "table" then content session db table opening else pure ()) := by
    split
    · exact safe_content h hrow table opening
    · exact .pure ()
  unfold object
  dsimp only
  split
  · exact hcontent _ _
  · exact .bind (safe_putLine h _) fun _ => hcontent _ _
  · refine .bind (Execute.safe_require _ fun _ _ => hrow _) fun name => ?_
    split
    · refine .bind (Execute.safe_require _ fun _ _ => hrow _) fun sql => ?_
      split
      · refine .own fun s _ => ?_
        split
        · exact .bind (safe_putLine h _) fun _ => .bind (safe_modifyTally _) fun _ => safe_put h _
        · exact .bind (.pure ()) fun _ => safe_put h _
      · exact .bind (safe_putLine h _) fun _ => hcontent _ _
    · exact .pure ()

theorem safe_listed (query : String) (bindings : List Sql.Value) :
    Safe (o.At held links fun _ => True) F (listed session db query bindings) := by
  refine Execute.safe_query h (fun _ _ values _ => ?_) query bindings
  split
  · exact .bind (safe_object h hrow _ _ _) fun _ => .pure false
  · exact .bind (.fail (hrow _)) fun _ => .pure false

theorem safe_objects (query : String) (bindings : List Sql.Value) :
    Safe (o.At held links fun _ => True) F (objects session db query bindings) := by
  have hreport (e : Engine.Error) : Safe (o.At held links fun _ => True) F (do
      put session (catalogErrorText e)
      countError) := .bind (safe_put h _) fun _ => safe_modifyTally _
  refine .attempt (safe_listed h hrow _ _) (fun _ => .pure ()) fun f hf => ?_
  cases f with
  | engine e =>
    dsimp only
    split
    · refine .bind (safe_put h _) fun _ => .attempt (safe_listed h hrow _ _) (fun _ => .pure ()) ?_
      intro f hf
      cases f with
      | engine e => exact hreport e
      | _ => exact .fail hf
    · exact hreport e
  | _ => exact .fail hf

theorem safe_body (patterns : List String) :
    Safe (o.At held links fun _ => True) F (body session db patterns) := by
  unfold body
  split
  · exact .bind (safe_objects h hrow _ _) fun _ => .bind (safe_objects h hrow _ _) fun _ =>
      .discard (safe_rows h _ _ _)
  · exact .forM (fun _ => .bind (safe_objects h hrow _ _) fun _ => .discard (safe_rows h _ _ _)) _

theorem safe_script (patterns : List String) :
    Safe (o.At held links fun _ => True) F (script session db patterns) := by
  have hrelease : Safe (o.At held links fun _ => True) F (release session db) := by
    refine .own fun s _ => ?_
    split
    · exact .bind (safe_putLine h _) fun _ => .bind (safe_modifyTally _) fun _ =>
        Execute.safe_perform h _ _ _
    · exact Execute.safe_perform h db _ _
  refine .bind (safe_modifyTally _) fun _ => .bind (safe_putLine h _) fun _ =>
    .bind (safe_putLine h _) fun _ => .bind (Execute.safe_perform h db _ _) fun _ => ?_
  refine .bind (.ensuring (safe_body h hrow patterns) hrelease) fun _ => ?_
  exact .own fun _ _ => .bind (safe_putLine h _) fun _ => .pure _

end SqlConsole.Dump

import SqlConsole.Execute.Query
import SqlConsole.Proofs.World.Ensures

/-! What a query brings about, from what each of its rows does. -/
namespace SqlConsole.Execute
open Act
open Engine (Answer)
variable {σ : Type}

/-- Rows that do not stop are all taken: what holds after those taken so far holds after one more. -/
theorem takeRows_ensures {each : Nat → List Sql.Value → Act σ Bool} {rows : List (List Sql.Value)}
    {I : List (List Sql.Value) → Scene σ → Prop} {E : Failure → Scene σ → Prop}
    (heach : ∀ taken values rest, rows = taken ++ values :: rest →
      Ensures (I taken) (each taken.length values)
        (fun stop s => stop = false ∧ I (taken ++ [values]) s) E) :
    Ensures (I []) (takeRows each 0 rows) (fun all s => all = true ∧ I rows s) E := by
  have hfrom (taken rest : List (List Sql.Value)) (hrows : rows = taken ++ rest) :
      Ensures (I taken) (takeRows each taken.length rest)
        (fun all s => all = true ∧ I rows s) E := by
    induction rest generalizing taken with
    | nil =>
      rw [List.append_nil] at hrows
      exact .pure fun s hs => ⟨rfl, hrows ▸ hs⟩
    | cons values rest ih =>
      refine .bind (heach taken values rest hrows) fun stop s hs => ?_
      obtain ⟨rfl, hs⟩ := hs
      have hrest := ih (taken ++ [values]) (by simp [hrows])
      rw [List.length_append] at hrest
      exact hrest s hs
  exact hfrom [] rows rfl

/-- A query is the text that is given to the engine, its rows in order, and its end. -/
theorem query_ensures_taken {session : Session} {db : Connection} {sql : String}
    {bindings : List Sql.Value} {each : List String → Nat → List Sql.Value → Act σ Bool}
    {P Q : Scene σ → Prop} {J : Answer → List (List Sql.Value) → Scene σ → Prop}
    {E : Failure → Scene σ → Prop}
    (hsubmit : Ensures P (submit session db sql bindings) (fun a => J a []) E)
    (heach : ∀ a taken values rest, a.rows.getD [] = taken ++ values :: rest →
      Ensures (J a taken) (each a.columns taken.length values)
        (fun stop s => stop = false ∧ J a (taken ++ [values]) s) E)
    (hend : ∀ a, Ensures (J a (a.rows.getD [])) (finish a) (fun _ => Q) E) :
    Ensures P (query session db sql bindings each) (fun _ => Q) E := by
  refine .bind hsubmit fun a => .bind (takeRows_ensures (heach a)) fun all s hs => ?_
  obtain ⟨rfl, hs⟩ := hs
  exact hend a s hs

/-- Where it does not matter which rows were taken, but how many. -/
theorem query_ensures {session : Session} {db : Connection} {sql : String}
    {bindings : List Sql.Value} {each : List String → Nat → List Sql.Value → Act σ Bool}
    {P Q : Scene σ → Prop} {J : Answer → Nat → Scene σ → Prop} {E : Failure → Scene σ → Prop}
    (hsubmit : Ensures P (submit session db sql bindings) (fun a => J a 0) E)
    (heach : ∀ a index, ∀ values ∈ a.rows.getD [], Ensures (J a index) (each a.columns index values)
      (fun stop s => stop = false ∧ J a (index + 1) s) E)
    (hend : ∀ a, Ensures (J a (a.rows.getD []).length) (finish a) (fun _ => Q) E) :
    Ensures P (query session db sql bindings each) (fun _ => Q) E := by
  refine query_ensures_taken (J := fun a taken => J a taken.length) hsubmit ?_ hend
  intro a taken values rest hrows
  rw [List.length_append]
  exact heach a taken.length values (by rw [hrows]; simp)

end SqlConsole.Execute

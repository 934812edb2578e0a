import SqlConsole.Proofs.Dump.Trail
import SqlConsole.Proofs.Execute.Rows

/-! The pieces of a script one after the other, where it is known what the engine says. What is
traced or logged to the same sink is no part of the script and is left out. -/
namespace SqlConsole
namespace Engine.Script

/-- Whatever it was given before, the engine answers the text like this. -/
def Answers (s : Script) (sql : String) (P : Answer → Prop) : Prop :=
  ∀ texts, P ((s.after texts).answer sql).1

theorem answers_sql (s : Script) (sql : String) : s.Answers sql fun a => a.sql = sql :=
  fun _ => sql_answer _ _

/-- With one answer to each text the script never changes. -/
theorem after_of_nodup {s : Script} (h : (s.answers.map Answer.sql).Nodup) (texts : List String) :
    s.after texts = s := by
  have hanswer (sql : String) : (s.answer sql).2 = s := by
    unfold answer
    split
    · rfl
    · rfl
    · next a r hne hfilter =>
      obtain ⟨b, r, rfl⟩ := List.exists_cons_of_ne_nil hne
      have hsql (a' : Answer) (ha' : a' ∈ a :: b :: r) : a'.sql = sql := by
        rw [← hfilter] at ha'
        simpa using (List.mem_filter.1 ha').2
      have hsub : ((a :: b :: r).map Answer.sql).Sublist (s.answers.map Answer.sql) :=
        (hfilter ▸ List.filter_sublist).map _
      have hnodup := hsub.nodup h
      simp [hsql a, hsql b] at hnodup
  induction texts with
  | nil => rfl
  | cons t texts ih =>
    show (s.answer t).2.after texts = s
    rw [hanswer, ih]

theorem Answers.of_nodup {s : Script} (h : (s.answers.map Answer.sql).Nodup) {sql : String}
    {P : Answer → Prop} (hP : P (s.answer sql).1) : s.Answers sql P :=
  fun texts => by rwa [after_of_nodup h texts]

end Engine.Script

namespace Dump
open Act
open Engine (Answer)
open Execute (submit query finish)
open Sql (Value)

/-- Up to here the engine has given the known answers, among others, and the script is made of these
pieces. -/
def Penned (session : Session) (w₀ : World) (known : List Answer) (pieces : List Piece)
    (w : World) : Prop :=
  ∃ texts all, Records session w₀ texts all w ∧ known ⊆ w₀.script.replies texts ∧
    all.filter (!·.isAside) = pieces

variable {session : Session} {w₀ : World} {known known' : List Answer} {pieces : List Piece}
  {σ : Type} {db : Connection} {sql : String} {P : Answer → Prop}

theorem Penned.refl (hready : Ready session w₀) : Penned session w₀ [] [] w₀ :=
  ⟨[], [], .refl hready, by simp, rfl⟩

theorem Penned.mono {w : World} (h : Penned session w₀ known pieces w) (hsub : known' ⊆ known) :
    Penned session w₀ known' pieces w := by
  obtain ⟨texts, all, hrecords, hknown, hall⟩ := h
  exact ⟨texts, all, hrecords, fun a ha => hknown (hsub ha), hall⟩

theorem put_penned {p : Piece} (hp : p.Stems session known) (haside : p.isAside = false) (t : Tally)
    {E : Failure → Scene Tally → Prop} :
    Ensures (fun s => s.own = t ∧ Penned session w₀ known pieces s.world) (put session p.text)
      (fun _ s => s.own = t ∧ Penned session w₀ known (pieces ++ [p]) s.world) E := by
  rintro s ⟨hown, texts, all, hrecords, hknown, hall⟩
  obtain ⟨w, hwrite, hw⟩ :=
    hrecords.exists_write hrecords.ready.output (p := p) fun _ => hp.mono hknown
  rw [if_pos rfl] at hw
  rw [put, hwrite]
  refine ⟨hown, texts, all ++ [p], hw, hknown, ?_⟩
  rw [List.filter_append, hall]
  simp [haside]

theorem countError_penned (t : Tally) {E : Failure → Scene Tally → Prop} :
    Ensures (fun s => s.own = t ∧ Penned session w₀ known pieces s.world) countError
      (fun _ s => s.own = { t with errors := t.errors + 1 } ∧
        Penned session w₀ known pieces s.world) E := by
  refine .modifyOwn ?_
  rintro s ⟨rfl, hs⟩
  exact ⟨rfl, hs⟩

theorem submit_penned (hanswers : w₀.script.Answers sql P)
    (bindings : List Value) (o : σ) :
    Ensures (fun s => s.own = o ∧ Penned session w₀ known pieces s.world)
      (submit session db sql bindings)
      (fun a s => a.sql = sql ∧ P a ∧ s.own = o ∧ Penned session w₀ (a :: known) pieces s.world)
      (fun e s => ∃ a f, a.sql = sql ∧ P a ∧ a.rows.getD [] = [] ∧ a.fault = some f ∧
        e = .ofFault f ∧ s.own = o ∧ Penned session w₀ (a :: known) pieces s.world) := by
  rintro s ⟨hown, texts, all, hrecords, hknown, hall⟩
  obtain ⟨r, w, asides, hsubmit, htakes, hw, hasides⟩ := hrecords.exists_submit db sql bindings
  have ha := Engine.Script.sql_answer s.world.script sql
  have hP : P (s.world.script.answer sql).1 := hrecords.script ▸ hanswers texts
  have hreplies := Engine.Script.replies_concat w₀.script texts sql
  rw [← hrecords.script] at hreplies
  generalize (s.world.script.answer sql).1 = a at ha hP htakes hreplies
  have hpenned : Penned session w₀ (a :: known) pieces w := by
    have hnone : asides.filter (!·.isAside) = [] :=
      List.filter_eq_nil_iff.2 fun p hp => by simp [hasides p hp]
    refine ⟨texts ++ [sql], all ++ asides, hw, ?_, by rw [List.filter_append, hnone, hall]; simp⟩
    rw [hreplies]
    exact List.cons_subset.2 ⟨List.mem_append_right _ (List.mem_singleton_self a),
      List.subset_append_of_subset_left _ hknown⟩
  rw [hsubmit]
  cases htakes with
  | granted => exact ⟨ha, hP, hown, hpenned⟩
  | refused f hrows hfault => exact ⟨a, f, ha, hP, by rw [hrows]; rfl, hfault, rfl, hown, hpenned⟩

theorem finish_penned (a : Answer) (o : σ) :
    Ensures (fun s => s.own = o ∧ Penned session w₀ known pieces s.world) (finish a)
      (fun _ s => a.fault = none ∧ s.own = o ∧ Penned session w₀ known pieces s.world)
      (fun e s => ∃ f, a.fault = some f ∧ e = .ofFault f ∧ s.own = o ∧
        Penned session w₀ known pieces s.world) := by
  rintro s ⟨hown, texts, all, hrecords, hrest⟩
  obtain ⟨w, hw, ⟨hfault, hfinish⟩ | ⟨f, hfault, hfinish⟩⟩ := finish_cases hrecords a
  · rw [hfinish]
    exact ⟨hfault, hown, texts, all, hw, hrest⟩
  · rw [hfinish]
    exact ⟨f, hfault, rfl, hown, texts, all, hw, hrest⟩

/-- A text whose rows do not matter adds nothing to the script. -/
theorem perform_penned (o : σ) :
    Ensures (fun s => s.own = o ∧ Penned session w₀ known pieces s.world)
      (Execute.perform session db sql [])
      (fun _ s => s.own = o ∧ Penned session w₀ known pieces s.world) (fun _ _ => True) := by
  have hsubset (a : Answer) : known ⊆ a :: known := List.subset_cons_self a known
  refine .bind ((submit_penned (w₀.script.answers_sql sql) [] o).mono (fun _ h => h) (fun _ _ h => h)
    fun _ _ _ => trivial) fun a => ?_
  split
  · refine (finish_penned a o).mono (fun s hs => hs.2.2) ?_ fun _ _ _ => trivial
    exact fun _ s hs => ⟨hs.2.1, hs.2.2.mono (hsubset a)⟩
  · exact .pure fun s hs => ⟨hs.2.2.1, hs.2.2.2.mono (hsubset a)⟩

/-- Each row of the answer makes its pieces. `own` is what the action keeps for itself after some rows,
and `made` what those rows have made. -/
def Makes (session : Session) (w₀ : World) (known : List Answer) (pieces : List Piece)
    (own : List (List Value) → σ → Prop) (made : List (List Value) → List Piece)
    (each : List String → Nat → List Value → Act σ Bool) (a : Answer) : Prop :=
  ∀ taken values rest, a.rows.getD [] = taken ++ values :: rest →
    Ensures
      (fun s => own taken s.own ∧ Penned session w₀ (a :: known) (pieces ++ made taken) s.world)
      (each a.columns taken.length values)
      (fun stop s => stop = false ∧ own (taken ++ [values]) s.own ∧
        Penned session w₀ (a :: known) (pieces ++ made (taken ++ [values])) s.world)
      (fun _ _ => False)

/-- A query each of whose rows makes some pieces. -/
theorem query_penned (own : List (List Value) → σ → Prop) (made : List (List Value) → List Piece)
    (hanswers : w₀.script.Answers sql P) (bindings : List Value)
    {each : List String → Nat → List Value → Act σ Bool} (hmade : made [] = [])
    (heach : ∀ a, a.sql = sql → P a → Makes session w₀ known pieces own made each a) :
    Ensures (fun s => own [] s.own ∧ Penned session w₀ known pieces s.world)
      (query session db sql bindings each)
      (fun _ s => ∃ a, a.sql = sql ∧ P a ∧ a.fault = none ∧ own (a.rows.getD []) s.own ∧
        Penned session w₀ (a :: known) (pieces ++ made (a.rows.getD [])) s.world)
      (fun e s => ∃ a f, a.sql = sql ∧ P a ∧ a.fault = some f ∧ e = .ofFault f ∧
        own (a.rows.getD []) s.own ∧
        Penned session w₀ (a :: known) (pieces ++ made (a.rows.getD [])) s.world) := by
  refine Execute.query_ensures_taken (J := fun a taken s => a.sql = sql ∧ P a ∧ own taken s.own ∧
    Penned session w₀ (a :: known) (pieces ++ made taken) s.world) ?_ ?_ ?_
  · rintro s ⟨hown, hs⟩
    refine (submit_penned hanswers bindings s.own s ⟨rfl, hs⟩).mono ?_ ?_
    · rintro a s' ⟨ha, hP, hown', hs'⟩
      rw [hown', hmade, List.append_nil]
      exact ⟨ha, hP, hown, hs'⟩
    · rintro e s' ⟨a, f, ha, hP, hrows, hfault, he, hown', hs'⟩
      refine ⟨a, f, ha, hP, hfault, he, ?_⟩
      rw [hrows, hmade, List.append_nil, hown']
      exact ⟨hown, hs'⟩
  · rintro a taken values rest hrows s ⟨ha, hP, hs⟩
    refine (heach a ha hP taken values rest hrows s hs).mono ?_ fun _ _ h => h.elim
    exact fun stop s' h => ⟨h.1, ha, hP, h.2⟩
  · rintro a s ⟨ha, hP, hown, hs⟩
    refine (finish_penned a s.own s ⟨rfl, hs⟩).mono ?_ ?_
    · rintro _ s' ⟨hfault, hown', hs'⟩
      exact ⟨a, ha, hP, hfault, hown' ▸ hown, hs'⟩
    · rintro e s' ⟨f, hfault, he, hown', hs'⟩
      exact ⟨a, f, ha, hP, hfault, he, hown' ▸ hown, hs'⟩

/-- How a query ends, by the fault of its answer. -/
def ended : Option Engine.Fault → Except Failure Unit
  | none => .ok ()
  | some f => .error (.ofFault f)

/-- A query each of whose rows makes some pieces, however it ends. -/
theorem attempt_query_penned (own : List (List Value) → σ → Prop)
    (made : List (List Value) → List Piece) (hanswers : w₀.script.Answers sql P)
    (bindings : List Value) {each : List String → Nat → List Value → Act σ Bool} (hmade : made [] = [])
    (heach : ∀ a, a.sql = sql → P a → Makes session w₀ known pieces own made each a)
    {E : Failure → Scene σ → Prop} :
    Ensures (fun s => own [] s.own ∧ Penned session w₀ known pieces s.world)
      (attempt (query session db sql bindings each))
      (fun r s => ∃ a, a.sql = sql ∧ P a ∧ r = ended a.fault ∧ own (a.rows.getD []) s.own ∧
        Penned session w₀ (a :: known) (pieces ++ made (a.rows.getD [])) s.world) E := by
  refine .attempt ((query_penned own made hanswers bindings hmade heach).mono (fun _ h => h) ?_ ?_)
  · rintro _ s ⟨a, ha, hP, hfault, hs⟩
    exact ⟨a, ha, hP, by rw [hfault]; rfl, hs⟩
  · rintro e s ⟨a, f, ha, hP, hfault, rfl, hs⟩
    exact ⟨a, ha, hP, by rw [hfault]; rfl, hs⟩

/-- The rows of a query are written as statements, and its error as a comment behind them. -/
theorem rows_penned (hanswers : w₀.script.Answers sql P)
    (bindings : List Value) (t : Tally) :
    Ensures (fun s => s.own = t ∧ Penned session w₀ known pieces s.world)
      (rows session db sql [] bindings)
      (fun r s => ∃ a, a.sql = sql ∧ P a ∧ a.fault = r.map .error ∧
        s.own = { t with errors := t.errors + r.toList.length } ∧
        Penned session w₀ (a :: known)
          (pieces ++ (a.rows.getD []).map .row ++ (r.map .rowError).toList) s.world)
      (fun _ _ => ∃ a, P a ∧ a.fault = some .interrupted) := by
  refine .bind (attempt_query_penned (fun _ => (· = t)) (List.map .row) hanswers bindings rfl ?_)
    fun r => ?_
  · intro a _ _ taken values rest hrows
    have hput : Ensures
        (fun s => s.own = t ∧ Penned session w₀ (a :: known) (pieces ++ taken.map .row) s.world)
        (put session (rowStatement values))
        (fun _ s => s.own = t ∧
          Penned session w₀ (a :: known) (pieces ++ taken.map .row ++ [.row values]) s.world)
        (fun _ _ => False) :=
      put_penned (p := .row values) ⟨a, List.mem_cons_self, by rw [hrows]; simp⟩ rfl t
    simp only [List.isEmpty_nil, Bool.not_true, Bool.and_false, Bool.false_eq_true, if_false]
    refine .bind hput fun _ => .pure fun s hs => ⟨rfl, hs.1, ?_⟩
    rw [List.map_append, ← List.append_assoc]
    exact hs.2
  · rintro s ⟨a, ha, hP, rfl, hs⟩
    cases hfault : a.fault with
    | none => exact ⟨a, ha, hP, hfault, hs.1, by simpa using hs.2⟩
    | some f =>
      cases f with
      | interrupted => exact ⟨a, hP, hfault⟩
      | error e =>
        have hreport : Ensures
            (fun s => s.own = t ∧
              Penned session w₀ (a :: known) (pieces ++ (a.rows.getD []).map .row) s.world)
            (do put session (rowErrorText e); countError; pure (some e))
            (fun r s => r = some e ∧ s.own = { t with errors := t.errors + 1 } ∧
              Penned session w₀ (a :: known)
                (pieces ++ (a.rows.getD []).map .row ++ [.rowError e]) s.world)
            (fun _ _ => False) :=
          .bind (put_penned (p := .rowError e) ⟨a, List.mem_cons_self, hfault⟩ rfl t) fun _ =>
            .bind (countError_penned t) fun _ => .pure fun _ hs => ⟨rfl, hs⟩
        refine (hreport s hs).mono ?_ fun _ _ h => h.elim
        rintro r s ⟨rfl, hs⟩
        exact ⟨a, ha, hP, hfault, hs⟩

end Dump
end SqlConsole

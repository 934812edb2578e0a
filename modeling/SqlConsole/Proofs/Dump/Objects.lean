import SqlConsole.Proofs.Dump.Content

/-! The objects of the catalog: what creates them, and how errors in the catalog are met. -/
namespace SqlConsole.Dump
open Act
open Engine (Answer)
open Sql (Value)
variable {session : Session} {w₀ : World} {known : List Answer} {db : Connection} {a : Answer}

/-- Before the first virtual table the catalog is made writable. -/
theorem virtualTable_sound {name sql : String}
    (hp : (Piece.virtualTable name sql).Stems session known) {E : Failure → Scene Tally → Prop} :
    Ensures (Sound session w₀ id known 0)
      (do
        if !(← Act.own).catalogWritable then
          putLine session "PRAGMA writable_schema=ON;"
          Act.modifyOwn fun t => { t with catalogWritable := true }
        put session (virtualTableText name.toList sql.toList))
      (fun _ => Sound session w₀ id known 0) E := by
  let opened (pieces : List Piece) : Prop :=
    ∃ before, pieces = before ++ [.catalogOn] ∧ Orderly false before
  have hput (shape : List Piece → Prop) (hshape : ∀ pieces, shape pieces →
      Orderly true (pieces ++ [.virtualTable name sql])) (errors : Nat) :
      Ensures (fun s => s.own = ⟨errors, true⟩ ∧ Trail session w₀ known errors shape s.world)
        (put session (virtualTableText name.toList sql.toList))
        (fun _ => Sound session w₀ id known 0) E := by
    refine (put_trail hp hshape ⟨errors, true⟩).post ?_
    rintro _ s ⟨hown, hs⟩
    rw [Sound, hown]
    exact hs
  have hopen (errors : Nat) :
      Ensures (fun s => s.own = ⟨errors, false⟩ ∧
          Trail session w₀ known errors (Orderly false) s.world)
        (putLine session "PRAGMA writable_schema=ON;")
        (fun _ s => s.own = ⟨errors, false⟩ ∧ Trail session w₀ known errors opened s.world) E :=
    put_trail (p := .catalogOn) trivial (fun before h => ⟨before, rfl, h⟩) ⟨errors, false⟩
  refine .bind (Q := fun t s => s.own = t ∧ Sound session w₀ id known 0 s) (.own fun s hs => ⟨rfl, hs⟩)
    fun t => ?_
  obtain ⟨errors, writable⟩ := t
  cases writable with
  | true =>
    refine (hput (Orderly true) (fun _ h => h.concat_virtualTable name sql) errors).pre ?_
    rintro s ⟨hown, hs⟩
    rw [Sound, hown] at hs
    exact ⟨hown, hs⟩
  | false =>
    refine .bind ((hopen errors).pre ?_) fun _ => .bind (.modifyOwn ?_) fun _ => hput opened ?_ errors
    · rintro s ⟨hown, hs⟩
      rw [Sound, hown] at hs
      exact ⟨hown, hs⟩
    · rintro s ⟨hown, hs⟩
      exact ⟨by rw [hown], hs⟩
    · rintro _ ⟨before, rfl, h⟩
      exact h.concat_catalogOn name sql

theorem require_textOf {v : Value} (ha : a ∈ known) (hv : (∀ t, v ≠ .text t) → Misshapen a) :
    Ensures (Sound session w₀ id known 0) (Execute.require (Execute.textOf v))
      (fun t s => v = .text t ∧ Sound session w₀ id known 0 s) (Broken session w₀ id known) := by
  have hfail (hv' : ∀ t, v ≠ .text t) (f : RowFault) :
      Ensures (Sound session w₀ id known 0) (Act.fail (.catalogRow f) : Act Tally String)
        (fun t s => v = .text t ∧ Sound session w₀ id known 0 s) (Broken session w₀ id known) :=
    .fail fun s hs => ⟨a, hs.mono (List.cons_subset.2 ⟨ha, List.Subset.refl known⟩), .row f (hv hv')⟩
  cases v with
  | text t => exact .pure fun s hs => ⟨rfl, hs⟩
  | blob bytes => exact hfail (by simp) .blob
  | null => exact hfail (by simp) .noText
  | integer n => exact hfail (by simp) .noText
  | real x => exact hfail (by simp) .noText

theorem object_sound (ha : a ∈ known) (hplain : asksColumns a.sql = false) {name kind sql : Value}
    (hrow : [name, kind, sql] ∈ a.rows.getD []) :
    Ensures (Sound session w₀ id known 0) (object session db name kind sql)
      (fun _ => Sound session w₀ id known 0) (Broken session w₀ id known) := by
  have hcontent (table : String) {opening : List Char}
      (hopening : opening = [] ∨ opening = Piece.keys.text ∧ Piece.keys.Stems session known) :
      Ensures (Sound session w₀ id known 0)
        (if kind = .text "table" then content session db table opening else pure ())
        (fun _ => Sound session w₀ id known 0) (Broken session w₀ id known) := by
    split
    · exact content_sound table hopening
    · exact .pure fun _ hs => hs
  have hmisshapen (h : ∀ n k q, [name, kind, sql] ≠ [.text n, k, .text q]) : Misshapen a :=
    ⟨_, hrow, by simpa [hplain] using h⟩
  unfold object
  dsimp only
  split
  · exact hcontent _ (.inr ⟨rfl, a, ha, kind, sql, hrow⟩)
  · exact .bind (put_sound (p := .statistics) ⟨a, ha, kind, sql, hrow⟩ rfl) fun _ =>
      hcontent _ (.inl rfl)
  · refine .bind (require_textOf ha fun h => hmisshapen fun n k q heq => ?_) fun n => ?_
    · exact h n (List.cons.inj heq).1
    refine .assume fun hname => ?_
    split
    case isFalse => exact .pure fun _ hs => hs
    refine .bind (require_textOf ha fun h => hmisshapen fun n k q heq => ?_) fun q => ?_
    · simp only [List.cons.injEq] at heq
      exact h q heq.2.2.1
    refine .assume fun hsql => ?_
    subst hname hsql
    split
    · exact virtualTable_sound ⟨a, ha, kind, hrow⟩
    · exact .bind (put_sound (p := .create q) ⟨a, ha, .text n, kind, hrow⟩ rfl) fun _ =>
        hcontent n (.inl rfl)

/-- The objects that a query lists. -/
theorem listed_sound {q : String} (hq : Selects q) (bindings : List Value) :
    Ensures (Sound session w₀ id known 0) (listed session db q bindings)
      (fun _ => Sound session w₀ id known 0) (Broken session w₀ id known) := by
  refine query_sound hq fun a ha index values hvalues => ?_
  have hplain : asksColumns a.sql = false := ha ▸ hq.asksColumns
  have hmisshapen (h : ∀ n k s, values ≠ [n, k, s]) : Misshapen a :=
    ⟨values, hvalues, by simpa [hplain] using fun n k s => h (.text n) k (.text s)⟩
  dsimp only
  split
  · next name kind sql =>
    exact .bind (object_sound List.mem_cons_self hplain hvalues) fun _ => .pure fun _ hs => ⟨rfl, hs⟩
  · next hshape =>
    refine .bind (.fail fun s hs => ?_) fun _ => .pure fun _ hs => ⟨rfl, hs⟩
    exact ⟨a, hs.mono (List.cons_subset.2 ⟨List.mem_cons_self, List.Subset.refl _⟩),
      .row _ (hmisshapen hshape)⟩

theorem objects_sound {q : String} (hq : Selects q) (bindings : List Value) :
    Ensures (Sound session w₀ id known 0) (objects session db q bindings)
      (fun _ => Sound session w₀ id known 0) (Fatal session w₀ known) := by
  have hreport (e : Engine.Error) : Ensures (Broken session w₀ id known (.engine e))
      (do put session (catalogErrorText e); countError)
      (fun _ => Sound session w₀ id known 0) (Fatal session w₀ known) :=
    .bind (report_sound (p := .catalogError e) rfl fun a _ h hmem => ⟨a, hmem, h⟩) fun _ =>
      countError_sound
  refine .bind (.attempt (Q := Outcome session w₀ known) (listed_sound hq bindings)) fun r => ?_
  cases r with
  | ok _ => exact .pure fun _ hs => hs
  | error f =>
    cases f with
    | engine e =>
      dsimp only
      split
      · next hcorrupt =>
        refine .bind (report_sound (p := .corruption e) rfl fun a _ h hmem => ⟨hcorrupt, a, hmem, h⟩)
          fun _ => .bind (.attempt (Q := Outcome session w₀ known)
            (listed_sound hq.reversed bindings)) fun r => ?_
        cases r with
        | ok _ => exact .pure fun _ hs => hs
        | error f =>
          cases f with
          | engine e => exact hreport e
          | _ => exact .fail fun s hs => ⟨hs, by simp⟩
      · exact hreport e
    | _ => exact .fail fun s hs => ⟨hs, by simp⟩

theorem body_sound (db : Connection) (patterns : List String) :
    Ensures (Sound session w₀ id known 0) (body session db patterns)
      (fun _ => Sound session w₀ id known 0) (Fatal session w₀ known) := by
  unfold body
  split
  · exact .bind (objects_sound (by decide +kernel) [])
      fun _ => .bind (objects_sound (by decide +kernel) []) fun _ =>
      (rows_sound (by decide +kernel) [] (.inl rfl)).discard
  · exact .forM (fun p => .bind (objects_sound (by decide +kernel) _) fun _ =>
      (rows_sound (by decide +kernel) _ (.inl rfl)).discard) _

end SqlConsole.Dump

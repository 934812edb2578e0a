import SqlConsole.Proofs.Dump.Tally

/-! The content of tables: rows that become statements, and errors that become comments. -/
namespace SqlConsole.Dump
open Act
open Engine (Answer)
open Sql (Value)

/-- The dump broke off, and not because of an error that the engine reported. -/
def Fatal (session : Session) (w₀ : World) (known : List Answer) (e : Failure) (s : Scene Tally) :
    Prop :=
  Broken session w₀ id known e s ∧ ∀ err, e ≠ .engine err

variable {session : Session} {w₀ : World} {known : List Answer} {db : Connection}

/-- How an action ended that is known to keep the tally right. -/
def Outcome {α : Type} (session : Session) (w₀ : World) (known : List Answer)
    (r : Except Failure α) (s : Scene Tally) : Prop :=
  match r with
  | .ok _ => Sound session w₀ id known 0 s
  | .error e => Broken session w₀ id known e s

/-- An error of the engine becomes a comment, which may have to be counted. -/
theorem report_sound {e : Engine.Error} {p : Piece} (hcatalog : p.isCatalog = false)
    (hstems : ∀ (a : Answer) (known : List Answer), a.fault = some (.error e) → a ∈ known →
      p.Stems session known) {E : Failure → Scene Tally → Prop} :
    Ensures (Broken session w₀ id known (.engine e)) (put session p.text)
      (fun _ => Sound session w₀ id known (if p.isError then 1 else 0)) E := by
  rintro s ⟨a, hs, hblames⟩
  cases hblames with
  | engine h =>
    have hp : p.Stems session (a :: known) := hstems a _ h List.mem_cons_self
    exact ((put_sound hp hcatalog).post fun _ _ h => h.mono (List.subset_cons_self a known)) s hs

theorem rows_sound {q : String} (hq : Selects q) {opening : List Char} (bindings : List Value)
    (hopening : opening = [] ∨ opening = Piece.keys.text ∧ Piece.keys.Stems session known) :
    Ensures (Sound session w₀ id known 0) (rows session db q opening bindings)
      (fun _ => Sound session w₀ id known 0) (Fatal session w₀ known) := by
  refine .bind (.attempt (Q := Outcome session w₀ known) (query_sound hq ?_)) fun r => ?_
  · intro a ha index values hvalues
    have hrow : Ensures (Sound session w₀ id (a :: known) 0)
        (do put session (rowStatement values); pure false)
        (fun stop s => stop = false ∧ Sound session w₀ id (a :: known) 0 s)
        (Broken session w₀ id (a :: known)) :=
      .bind (put_sound (p := .row values) ⟨a, List.mem_cons_self, hvalues⟩ rfl) fun _ =>
        .pure fun _ hs => ⟨rfl, hs⟩
    dsimp only
    split
    · next hfirst =>
      rcases hopening with rfl | ⟨rfl, hstems⟩
      · simp at hfirst
      · exact .bind (put_sound (hstems.mono (List.subset_cons_self a known)) rfl) fun _ => hrow
    · exact hrow
  · cases r with
    | ok _ => exact .pure fun _ hs => hs
    | error f =>
      cases f with
      | engine e =>
        exact .bind (report_sound (p := .rowError e) rfl fun a _ h hmem => ⟨a, hmem, h⟩) fun _ =>
          .bind countError_sound fun _ => .pure fun _ hs => hs
      | _ => exact .fail fun s hs => ⟨hs, by simp⟩

/-- The columns of a table, as far as they are listed; without any of them an error is due. -/
theorem gather_sound {sql : String} (hasks : asksColumns sql) (hsql : sql ≠ releaseText) :
    Ensures (Sound session w₀ id known 0)
      (Execute.gather session db sql [] (Execute.valueAt 1))
      (fun columns s => ∃ a, asksColumns a.sql ∧
        (∀ v ∈ columns, ∃ values ∈ a.rows.getD [], values[1]? = some v) ∧
        Sound session w₀ id (a :: known) (if columns.isEmpty then 1 else 0) s)
      (Broken session w₀ id known) := by
  refine .within fun o => ?_
  let J (a : Answer) (index : Nat) (s : Scene (List Value)) : Prop :=
    a.sql = sql ∧ s.own.length = index ∧
      (∀ v ∈ s.own, ∃ values ∈ a.rows.getD [], values[1]? = some v) ∧
      Sound session w₀ (fun _ => o) (a :: known) (due a) s
  refine .bind (Execute.query_ensures (J := J)
    (Q := fun s => ∃ a, J a (a.rows.getD []).length s ∧ a.fault = none) ?_ ?_ ?_) fun _ => ?_
  · rintro s ⟨hown, hs⟩
    have hsubmit : Ensures
        (fun s : Scene (List Value) => s.own = [] ∧ Sound session w₀ (fun _ => o) known 0 s)
        (Execute.submit session db sql [])
        (fun a s => s.own = [] ∧ a.sql = sql ∧ Sound session w₀ (fun _ => o) (a :: known) (due a) s)
        (Broken session w₀ (fun _ => o) known) := submit_sound hsql db [] []
    refine (hsubmit s ⟨hown, hs⟩).mono ?_ fun _ _ h => h
    rintro a s' ⟨hown', ha, hs'⟩
    exact ⟨ha, by simp [hown'], by simp [hown'], hs'⟩
  · rintro a index values hvalues s ⟨ha, hlength, hcolumns, hs⟩
    cases hvalue : values[1]? with
    | none =>
      have hmisshapen : Misshapen a := ⟨values, hvalues, by simp [ha, hasks, hvalue]⟩
      simp only [Execute.valueAt, hvalue]
      rw [due_of_row hvalues] at hs
      exact ⟨a, hs, .row _ hmisshapen⟩
    | some v =>
      simp only [Execute.valueAt, hvalue]
      refine ⟨rfl, ha, by simp [hlength], ?_, hs⟩
      intro v' hv'
      rcases List.mem_cons.1 hv' with rfl | hv'
      · exact ⟨values, hvalues, hvalue⟩
      · exact hcolumns v' hv'
  · rintro a s ⟨ha, hlength, hcolumns, hs⟩
    refine (finish_sound a s.own s ⟨rfl, hs⟩).mono ?_ fun _ _ h => h
    rintro _ s' ⟨hown, hfault, hs'⟩
    rw [← hown] at hlength hcolumns
    exact ⟨a, ⟨ha, hlength, hcolumns, hs'⟩, hfault⟩
  · refine .bind (Q := fun columns s => ∃ a, J a (a.rows.getD []).length s ∧ a.fault = none ∧
      s.own = columns) (.own fun s hs => ?_) fun columns => .pure fun s hs => ?_
    · obtain ⟨a, hJ, hfault⟩ := hs
      exact ⟨a, hJ, hfault, rfl⟩
    · obtain ⟨a, ⟨ha, hlength, hcolumns, hs⟩, hfault, rfl⟩ := hs
      have hdue : due a = if s.own.reverse.isEmpty then 1 else 0 := by
        have hempty : s.own = [] ↔ a.rows.getD [] = [] := by
          rw [← List.length_eq_zero_iff, ← List.length_eq_zero_iff, hlength]
        simp [due, isColumnless, ha, hasks, hfault, hempty]
      rw [hdue] at hs
      exact ⟨a, by rwa [ha], by simpa using hcolumns, sound_within.2 hs⟩

theorem selects_contentText (table : List Char) (columns : List (List Char)) :
    Selects (String.ofList (contentText table columns)) := by
  have hstart : "SELECT".toList <+: "SELECT 'INSERT INTO ' || ".toList := by decide
  have htext : "SELECT".toList <+: contentText table columns := by
    unfold contentText
    exact ((((hstart.trans (List.prefix_append _ _)).trans (List.prefix_append _ _)).trans
      (List.prefix_append _ _)).trans (List.prefix_append _ _)).trans (List.prefix_append _ _)
  rwa [Selects, String.toList_ofList (l := contentText table columns)]

/-- A column without a name is one that is not described as it should be. -/
theorem misshapen_of_names {a : Answer} (hasks : asksColumns a.sql) {columns : List Value}
    (hcolumns : ∀ v ∈ columns, ∃ values ∈ a.rows.getD [], values[1]? = some v) {f : RowFault}
    (h : columns.mapM Execute.textOf = .error f) : Misshapen a := by
  induction columns with
  | nil => cases h
  | cons v columns ih =>
    rw [List.mapM_cons] at h
    cases hv : Execute.textOf v with
    | error f' =>
      obtain ⟨values, hvalues, hvalue⟩ := hcolumns v List.mem_cons_self
      refine ⟨values, hvalues, ?_⟩
      rw [if_pos hasks, hvalue]
      rintro name hname
      obtain rfl : v = .text name := Option.some_inj.1 hname
      cases hv
    | ok name =>
      refine ih (fun v' hv' => hcolumns v' (List.mem_cons_of_mem v hv')) ?_
      rw [hv] at h
      cases hrest : columns.mapM Execute.textOf with
      | error f' =>
        rw [hrest] at h
        exact h
      | ok names =>
        rw [hrest] at h
        cases h

theorem asksColumns_pragma (table r : List Char) :
    asksColumns (String.ofList ("PRAGMA table_info(".toList ++ table ++ r)) := by
  generalize htext : "PRAGMA table_info(".toList ++ table ++ r = text
  have hprefix : "PRAGMA table_info(".toList <+: text := by
    rw [← htext, List.append_assoc]
    exact List.prefix_append _ _
  rw [asksColumns, String.toList_ofList (l := text)]
  exact List.isPrefixOf_iff_prefix.2 hprefix

theorem ne_releaseText_of_asksColumns {sql : String} (h : asksColumns sql) :
    sql ≠ releaseText := by
  rintro rfl
  exact absurd h (by decide)

theorem contentQuery_sound (table : String) :
    Ensures (Sound session w₀ id known 0) (contentQuery session db table)
      (fun q s => (∀ query, q = some query → Selects query) ∧
        Sound session w₀ id known (if q.isNone then 1 else 0) s)
      (Broken session w₀ id known) := by
  have hasks := asksColumns_pragma (Sql.quoteIdentifier table.toList) [')', ';']
  refine .bind (gather_sound hasks (ne_releaseText_of_asksColumns hasks)) fun columns => ?_
  split
  · next hnone =>
    refine .pure ?_
    rintro s ⟨a, -, -, hs⟩
    exact ⟨by simp, hs.mono (List.subset_cons_self a known)⟩
  · next hsome =>
    rintro s ⟨a, hasked, hcolumns, hs⟩
    cases hnames : columns.mapM Execute.textOf with
    | error f =>
      exact ⟨a, hs, .row f (misshapen_of_names hasked hcolumns hnames)⟩
    | ok names =>
      refine ⟨?_, hs.mono (List.subset_cons_self a known)⟩
      rintro query hquery
      obtain rfl := Option.some_inj.1 hquery
      exact selects_contentText _ _

theorem Selects.reversed {sql : String} (h : Selects sql) : Selects (reversed sql) := by
  rw [Selects, Dump.reversed, String.toList_append]
  exact h.trans (List.prefix_append _ _)

/-- The content of a table. What opens it is said before the first row, if at all. -/
theorem content_sound (table : String) {opening : List Char}
    (hopening : opening = [] ∨ opening = Piece.keys.text ∧ Piece.keys.Stems session known) :
    Ensures (Sound session w₀ id known 0) (content session db table opening)
      (fun _ => Sound session w₀ id known 0) (Broken session w₀ id known) := by
  refine .bind (contentQuery_sound table) fun q => ?_
  cases q with
  | none => exact countError_sound.pre fun s hs => hs.2
  | some query =>
    rintro s ⟨hquery, hs⟩
    have hselects : Selects query := hquery query rfl
    have hrows {q : String} (hq : Selects q) {opening : List Char}
        (hopening : opening = [] ∨ opening = Piece.keys.text ∧ Piece.keys.Stems session known) :
        Ensures (Sound session w₀ id known 0) (rows session db q opening [])
          (fun _ => Sound session w₀ id known 0) (Broken session w₀ id known) :=
      (rows_sound hq [] hopening).mono (fun _ h => h) (fun _ _ h => h) fun _ _ h => h.1
    refine ((hrows hselects hopening).bind fun r => ?_) s hs
    cases r with
    | none => exact .pure fun _ h => h
    | some e =>
      dsimp only
      split
      · exact (hrows hselects.reversed (.inl rfl)).discard
      · exact .pure fun _ h => h

end SqlConsole.Dump

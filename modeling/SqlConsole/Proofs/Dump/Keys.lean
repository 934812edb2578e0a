import SqlConsole.Proofs.Dump.Piece
import SqlConsole.Proofs.Engine.Faults
import SqlConsole.Proofs.Execute.Frame
import SqlConsole.Proofs.Execute.Rows
import SqlConsole.Proofs.World.Discreet
import SqlConsole.Proofs.World.Safe

/-! The content of the table of automatic keys. The keys that the engine makes of itself while a script
is read are to be replaced, so the rows stand behind a statement that deletes what is there. -/
namespace SqlConsole.Dump
open Act
open Engine (Answer Script)
open Execute (submit query finish)
open Sql (Value)

/-- From the one world to the other these pieces were written to the output, and nothing besides but what
is traced or logged to the same sink. The engine has used up some of its answers. -/
structure Adds (session : Session) (w₀ : World) (pieces : List Piece) (w : World) : Prop where
  written : ∃ all : List Piece,
    w.written session.output = w₀.written session.output ++ all.map (fun p => String.ofList p.text) ∧
      all.filter (!·.isAside) = pieces ∧ ∀ p ∈ all, p.isAside → session.Listens session.output
  script : w₀.script.Leaves w.script
  taking : w.taking = w₀.taking

section Adds
variable {session : Session} {w₀ w w' : World} {pieces : List Piece} {db : Connection} {sql : String}
  {σ : Type}

theorem Adds.refl (session : Session) (w : World) : Adds session w [] w :=
  ⟨⟨[], by simp⟩, .refl _, rfl⟩

namespace Adds

theorem congr (h : Adds session w₀ pieces w) (hscript : w.script.Leaves w'.script)
    (htaking : w'.taking = w.taking) (hwritten : w'.written session.output = w.written session.output) :
    Adds session w₀ pieces w' :=
  ⟨by rw [hwritten]; exact h.written, h.script.trans hscript, htaking.trans h.taking⟩

theorem note (h : Adds session w₀ pieces w) {d : Deed} (hd : d.textTo? session.output = none) :
    Adds session w₀ pieces { w with past := d :: w.past } :=
  h.congr (.refl _) rfl (by simp [World.written_note, hd])

/-- A piece is written to the output. -/
theorem add (h : Adds session w₀ pieces w) {p : Piece} (hp : p.isAside = false) {k : Sink}
    (hstays : World.Stays k w w')
    (hpast : w'.past = .wrote session.output (String.ofList p.text) :: w.past) :
    Adds session w₀ (pieces ++ [p]) w' := by
  obtain ⟨all, hwritten, hall, hasides⟩ := h.written
  refine ⟨⟨all ++ [p], ?_, by simp [hall, hp], ?_⟩, hstays.script ▸ h.script, hstays.taking.trans h.taking⟩
  · rw [World.written_of_past hpast, hwritten, Deed.textTo?]
    simp
  · intro q hq haside
    rcases List.mem_append.1 hq with hq | hq
    · exact hasides q hq haside
    · rw [List.mem_singleton.1 hq, hp] at haside
      cases haside

/-- Text that is no part of the script is written somewhere. -/
theorem aside (h : Adds session w₀ pieces w) {p : Piece} (hp : p.isAside) {k : Sink}
    (hk : session.Listens k) (hstays : World.Stays k w w')
    (hpast : w'.past = .wrote k (String.ofList p.text) :: w.past) : Adds session w₀ pieces w' := by
  by_cases hout : k = session.output
  · subst hout
    obtain ⟨all, hwritten, hall, hasides⟩ := h.written
    refine ⟨⟨all ++ [p], ?_, by simp [hall, hp], fun _ _ _ => hk⟩, hstays.script ▸ h.script,
      hstays.taking.trans h.taking⟩
    rw [World.written_of_past hpast, hwritten, Deed.textTo?]
    simp
  · refine h.congr (hstays.script ▸ .refl _) hstays.taking ?_
    rw [World.written_of_past hpast, Deed.textTo?, if_neg hout]
    simp

end Adds

/-- The output does not take all that it is given, so that this comes out of writing there. -/
def Overflows (session : Session) (w : World) (f : Failure) : Prop :=
  f = .sink session.output .refused ∧ w.Refuses session.output

/-- The piece is written where the output is open, be it that what is passed on is refused then. -/
private theorem put_open (p : Piece) (hp : p.isAside = false) :
    Ensures (fun s => s.world.IsOpen session.output ∧ Adds session w₀ pieces s.world)
      (put session p.text)
      (fun _ s => s.world.IsOpen session.output ∧ Adds session w₀ (pieces ++ [p]) s.world)
      (fun f s => Adds session w₀ (pieces ++ [p]) s.world ∧ Overflows session w₀ f) := by
  rintro s ⟨hopen, hs⟩
  obtain ⟨r, w, hwrite, hr, hstays, hpast⟩ := Act.write_of_isOpen hopen p.text
  have hadds : Adds session w₀ (pieces ++ [p]) w := hs.add hp hstays hpast
  rw [put, hwrite]
  obtain rfl | ⟨rfl, hrefuses⟩ := hr
  · exact ⟨(hstays.isOpen_iff _).2 hopen, hadds⟩
  · exact ⟨hadds, rfl, (World.refuses_congr hs.taking _).1 hrefuses⟩

/-- Where the output is closed nothing is written. -/
private theorem put_adds (p : Piece) (hp : p.isAside = false) :
    Ensures (fun s => Adds session w₀ pieces s.world) (put session p.text)
      (fun _ s => s.world.IsOpen session.output ∧ Adds session w₀ (pieces ++ [p]) s.world)
      (fun f s => Adds session w₀ pieces s.world ∧ f.IsOfSink ∨
        Adds session w₀ (pieces ++ [p]) s.world ∧ Overflows session w₀ f) := by
  intro s hs
  by_cases hopen : s.world.IsOpen session.output
  · exact (put_open p hp s ⟨hopen, hs⟩).mono (fun _ _ h => h) fun _ _ h => .inr h
  · rw [put, Act.write_of_not_isOpen hopen]
    exact .inl ⟨hs, _, _, rfl⟩

private theorem write_aside {p : Piece} (hp : p.isAside) {k : Sink} (hk : session.Listens k) :
    Safe (fun s => Adds session w₀ pieces s.world) Failure.IsOfSink (Act.write k p.text : Act σ Unit) := by
  intro s hs
  obtain ⟨r, w, hwrite, hstays, ⟨rfl, hpast⟩ | ⟨fault, rfl, -, hpast | hpast⟩⟩ :=
    Act.write_cases k p.text s <;> rw [hwrite]
  · exact hs.aside hp hk hstays hpast
  · exact ⟨hs.congr (hstays.script ▸ .refl _) hstays.taking (by rw [World.written, World.written, hpast]),
      _, _, rfl⟩
  · exact ⟨hs.aside hp hk hstays hpast, _, _, rfl⟩

private theorem flush_adds (k : Sink) :
    Safe (fun s => Adds session w₀ pieces s.world) Failure.IsOfSink (Act.flush k : Act σ Unit) := by
  intro s hs
  obtain ⟨r, w, hflush, hstays, hpast, hr⟩ := Act.flush_cases k s
  have hadds : Adds session w₀ pieces w :=
    hs.congr (hstays.script ▸ .refl _) hstays.taking (by rw [World.written, World.written, hpast])
  rw [hflush]
  obtain rfl | ⟨fault, rfl, -⟩ := hr
  · exact hadds
  · exact ⟨hadds, _, _, rfl⟩

private theorem tellAll_adds (logging : Bool) (a : Answer) :
    Safe (fun s => Adds session w₀ pieces s.world) Failure.IsOfSink
      (Execute.tellAll session logging a : Act σ Unit) := by
  unfold Execute.tellAll
  split
  · refine .forM (fun notice => ?_) _
    unfold Execute.tell
    split
    · exact .pure ()
    · next k hk => exact .bind (write_aside (p := .logged notice) rfl (.inr hk)) fun _ => flush_adds k
  · exact .pure ()

private theorem trace_adds :
    Safe (fun s => Adds session w₀ pieces s.world) Failure.IsOfSink
      (Execute.trace session db sql : Act σ Unit) := by
  unfold Execute.trace
  split
  · next hk => exact write_aside (p := .traced sql) rfl (.inl hk)
  · exact .pure ()

/-- An error that ends a query is one that the engine reports behind the rows that were taken. -/
def Ending (script : Script) (rows : List (List Value)) (f : Failure) : Prop :=
  ∀ e, f = .engine e → ∃ a ∈ script.answers, a.fault = some (.error e) ∧ a.rows.getD [] = rows

theorem Ending.of_sink {script : Script} {rows : List (List Value)} {f : Failure} (h : f.IsOfSink) :
    Ending script rows f := by
  obtain ⟨k, fault, rfl⟩ := h
  exact nofun

/-- The answer is one of the script's, or says nothing. -/
def Known (script : Script) (a : Answer) : Prop :=
  a ∈ script.answers ∨ a.rows.getD [] = [] ∧ a.fault = none

theorem known_answer (script : Script) (sql : String) : Known script (script.answer sql).1 := by
  have hmem (a : Answer) (ha : a ∈ script.answers.filter (·.sql == sql)) : a ∈ script.answers :=
    (List.mem_filter.1 ha).1
  unfold Script.answer
  split
  · exact .inr ⟨rfl, rfl⟩
  · next a h => exact .inl (hmem a (by rw [h]; exact List.mem_cons_self))
  · next a r _ h => exact .inl (hmem a (by rw [h]; exact List.mem_cons_self))

theorem Ending.of_fault {script : Script} {a : Answer} {f : Engine.Fault} (ha : Known script a)
    (hfault : a.fault = some f) : Ending script (a.rows.getD []) (.ofFault f) := by
  intro e he
  cases f with
  | interrupted => cases he
  | error e' =>
    obtain rfl : e' = e := by simpa [Failure.ofFault] using he
    refine ⟨a, ha.resolve_right fun h => ?_, hfault, rfl⟩
    rw [h.2] at hfault
    cases hfault

/-- The rows are ones that the engine gives. -/
def Given (script : Script) (rows : List (List Value)) : Prop :=
  ∀ values ∈ rows, ∃ a ∈ script.answers, values ∈ a.rows.getD []

theorem Given.of_taken {script : Script} {a : Answer} {taken : List (List Value)}
    (ha : Known script a) (htaken : taken <+: a.rows.getD []) : Given script taken := by
  intro values hvalues
  have hmem := htaken.subset hvalues
  refine ⟨a, ha.resolve_right fun h => ?_, hmem⟩
  rw [h.1] at hmem
  cases hmem

/-- A text is given to the engine, which answers from the script. -/
private theorem submit_adds (bindings : List Value) :
    Ensures (fun s => Adds session w₀ pieces s.world) (submit session db sql bindings : Act σ Answer)
      (fun a s => Known w₀.script a ∧ Adds session w₀ pieces s.world)
      (fun f s => Adds session w₀ pieces s.world ∧ Ending w₀.script [] f) := by
  have hsink : ∀ (f : Failure) (s : Scene σ), Adds session w₀ pieces s.world ∧ f.IsOfSink →
      Adds session w₀ pieces s.world ∧ Ending w₀.script [] f := fun _ _ h => ⟨h.1, .of_sink h.2⟩
  have hevent : Ensures (fun s => Adds session w₀ pieces s.world)
      (Act.event (.execute sql bindings) : Act σ Unit)
      (fun _ s => Adds session w₀ pieces s.world)
      (fun f s => Adds session w₀ pieces s.world ∧ Ending w₀.script [] f) :=
    fun s hs => Adds.note hs rfl
  refine .bind hevent fun _ => .bind ?_ fun a => .assume fun ha =>
    .bind (Q := fun _ s => Adds session w₀ pieces s.world) (fun s hs => Adds.note hs rfl) fun _ =>
      .bind (trace_adds.onError hsink) fun _ => .pure fun s hs => ⟨ha, hs⟩
  refine .inWorld fun w => ?_
  rintro s ⟨hw, hs⟩
  have hanswer : Known w₀.script (w.script.answer sql).1 :=
    (known_answer w.script sql).imp_left fun h => (hw ▸ hs).script.answers h
  have hasked : Ensures (fun s : Scene σ => s.world = w ∧ Adds session w₀ pieces s.world)
      (Act.modifyWorld fun w => { w with script := (w.script.answer sql).2 } : Act σ Unit)
      (fun _ s => Adds session w₀ pieces s.world)
      (fun f s => Adds session w₀ pieces s.world ∧ Ending w₀.script [] f) := by
    rintro s ⟨rfl, hs⟩
    exact hs.congr (.answered _ _) rfl rfl
  refine (Ensures.bind hasked fun _ => .bind ((tellAll_adds _ _).onError hsink) fun _ =>
    .bind (Q := fun _ s => Adds session w₀ pieces s.world) (fun s hs => ?_) fun _ =>
      .pure fun _ hs => ⟨hanswer, hs⟩) s ⟨hw, hs⟩
  generalize (w.script.answer sql).1 = a at hanswer
  unfold Execute.permit
  cases hrows : a.rows with
  | some rows => exact hs
  | none =>
    cases hfault : a.fault with
    | none => exact hs
    | some f =>
      refine ⟨hs, ?_⟩
      have hending := Ending.of_fault hanswer hfault
      rwa [hrows] at hending

private theorem finish_adds {a : Answer} (ha : Known w₀.script a) :
    Ensures (fun s => Adds session w₀ pieces s.world) (finish a : Act σ Unit)
      (fun _ s => Adds session w₀ pieces s.world)
      (fun f s => Adds session w₀ pieces s.world ∧ Ending w₀.script (a.rows.getD []) f) := by
  refine .bind (Q := fun _ s => Adds session w₀ pieces s.world)
    (fun s hs => hs.congr (.refl _) rfl rfl) fun _ => ?_
  cases hfault : a.fault with
  | none => exact .pure fun _ hs => hs
  | some f => exact .fail fun s hs => ⟨hs, .of_fault ha hfault⟩

/-- A query whose rows write nothing. -/
private theorem query_adds {bindings : List Value} {each : List String → Nat → List Value → Act σ Bool}
    (heach : ∀ columns index values, Ensures (fun s => Adds session w₀ pieces s.world)
      (each columns index values) (fun stop s => stop = false ∧ Adds session w₀ pieces s.world)
      (fun _ s => Adds session w₀ pieces s.world)) :
    Keeps (fun s => Adds session w₀ pieces s.world) (query session db sql bindings each) := by
  refine Execute.query_ensures (J := fun a _ s => Known w₀.script a ∧
    Adds session w₀ pieces s.world) ((submit_adds bindings).onError fun _ _ h => h.1) ?_ ?_
  · exact fun a index values _ => .assume fun ha =>
      (heach _ _ _).post fun _ _ h => ⟨h.1, ha, h.2⟩
  · exact fun a => .assume fun ha => (finish_adds ha).onError fun _ _ h => h.1

private theorem contentQuery_adds (table : String) :
    Keeps (fun s => Adds session w₀ pieces s.world) (contentQuery session db table) := by
  have hgather (sql : String) : Keeps (fun s => Adds session w₀ pieces s.world)
      (Execute.gather session db sql [] (Execute.valueAt 1) : Act Tally (List Value)) := by
    refine .within fun o => ?_
    refine Ensures.pre (P := fun s => Adds session w₀ pieces s.world) (.bind (query_adds ?_) fun _ =>
      .bind (.own fun _ hs => hs) fun _ => .pure fun _ hs => hs) fun _ hs => hs.2
    intro _ _ values
    cases Execute.valueAt 1 values with
    | error f => exact .fail fun _ hs => hs
    | ok v => exact .bind (.modifyOwn fun _ hs => hs) fun _ => .pure fun _ hs => ⟨rfl, hs⟩
  refine (hgather _).bind fun columns => ?_
  split
  · exact .pure _
  · unfold Execute.require
    split
    · exact Keeps.bind (.pure _) fun _ => .pure _
    · exact Keeps.bind (.fail _) fun _ => .pure _

end Adds

/-- Rows behind what opens them; without rows nothing is opened. -/
def headed (opening : List Piece) : List (List Value) → List Piece
  | [] => []
  | rows => opening ++ rows.map .row

theorem headed_nil (rows : List (List Value)) : headed [] rows = rows.map .row := by
  cases rows <;> rfl

theorem headed_concat (opening : List Piece) (rows : List (List Value)) (values : List Value) :
    headed opening (rows ++ [values]) =
      (if rows = [] then opening else headed opening rows) ++ [.row values] := by
  cases rows with
  | nil => rfl
  | cons v rows => simp [headed]

section Rows
variable {session : Session} {w₀ : World} {pieces : List Piece} {db : Connection} {sql : String}

/-- What stands before rows, as the text that it is. -/
inductive Heads : List Piece → List Char → Prop
  | nothing : Heads [] []
  | keys : Heads [.keys] Piece.keys.text

/-- The rows that were taken are written behind what opens them. -/
private def Rows (session : Session) (w₀ : World) (pieces opening : List Piece)
    (taken : List (List Value)) (s : Scene Tally) : Prop :=
  Given w₀.script taken ∧ Adds session w₀ (pieces ++ headed opening taken) s.world

/-- Only what opens the rows is written, because no more is taken of it. -/
private def Cut (session : Session) (w₀ : World) (pieces opening : List Piece) (f : Failure)
    (s : Scene Tally) : Prop :=
  opening = [.keys] ∧ Adds session w₀ (pieces ++ [.keys]) s.world ∧ Overflows session w₀ f

/-- Only some of the rows are written, because a sink fails. -/
private def Halts (session : Session) (w₀ : World) (pieces opening : List Piece)
    (rows : List (List Value)) (f : Failure) (s : Scene Tally) : Prop :=
  ∃ taken, taken <+: rows ∧ Adds session w₀ (pieces ++ headed opening taken) s.world ∧ f.IsOfSink

/-- A row is written as a statement, the first one behind what opens the rows. -/
private theorem row_adds {opening : List Piece} {text : List Char} (hopening : Heads opening text)
    (taken : List (List Value)) (values : List Value) :
    Ensures (fun s => Adds session w₀ (pieces ++ headed opening taken) s.world)
      (do
        if taken.length = 0 && !text.isEmpty then put session text
        put session (rowStatement values)
        pure false)
      (fun stop s => stop = false ∧
        Adds session w₀ (pieces ++ headed opening (taken ++ [values])) s.world)
      (fun f s => Halts session w₀ pieces opening (taken ++ [values]) f s ∨
        Cut session w₀ pieces opening f s) := by
  have hwhole : Adds session w₀ (pieces ++ headed opening (taken ++ [values])) =
      Adds session w₀
        (pieces ++ (if taken = [] then opening else headed opening taken) ++ [.row values]) := by
    rw [headed_concat, List.append_assoc]
  have hrow (f : Failure) (s : Scene Tally)
      (h : Adds session w₀ (pieces ++ headed opening (taken ++ [values])) s.world ∧
        Overflows session w₀ f) : Halts session w₀ pieces opening (taken ++ [values]) f s :=
    ⟨_, List.prefix_refl _, h.1, _, _, h.2.1⟩
  have hbefore (f : Failure) (s : Scene Tally)
      (h : Adds session w₀ (pieces ++ headed opening taken) s.world ∧ f.IsOfSink) :
      Halts session w₀ pieces opening (taken ++ [values]) f s :=
    ⟨taken, List.prefix_append _ _, h⟩
  dsimp only
  split
  · next hfirst =>
    obtain ⟨hnone, hopens⟩ := Bool.and_eq_true_iff.1 hfirst
    obtain rfl : taken = [] := by simpa using hnone
    cases hopening with
    | nothing => cases hopens
    | keys =>
      refine .bind ((put_adds .keys rfl).onError ?_) fun _ =>
        .bind ((put_open (.row values) rfl).onError ?_) fun _ => .pure fun _ hs => ⟨rfl, ?_⟩
      · rintro f s (h | h)
        · exact .inl (hbefore f s h)
        · exact .inr ⟨rfl, by simpa [headed] using h⟩
      · exact fun f s h => .inl (hrow f s (by simpa [headed] using h))
      · simpa [headed] using hs.2
  · next hlater =>
    have hsame : (if taken = [] then opening else headed opening taken) = headed opening taken := by
      split
      · next hnone =>
        subst hnone
        cases hopening with
        | nothing => rfl
        | keys => exact absurd rfl hlater
      · rfl
    rw [hsame] at hwhole
    rw [hwhole] at hrow ⊢
    refine .bind ((put_adds (.row values) rfl).onError ?_) fun _ => .pure fun _ hs => ⟨rfl, hs.2⟩
    rintro f s (h | h)
    · exact .inl (hbefore f s h)
    · exact .inl (hrow f s h)

private theorem query_rows {opening : List Piece} {text : List Char} (hopening : Heads opening text) :
    Ensures (fun s => Adds session w₀ pieces s.world)
      (query session db sql [] fun _ index values => do
        if index = 0 && !text.isEmpty then put session text
        put session (rowStatement values)
        pure false)
      (fun _ s => ∃ taken, Rows session w₀ pieces opening taken s)
      (fun f s => (∃ taken, Rows session w₀ pieces opening taken s ∧ Ending w₀.script taken f) ∨
        Cut session w₀ pieces opening f s) := by
  refine Execute.query_ensures_taken (J := fun a taken s => (Known w₀.script a ∧
    taken <+: a.rows.getD []) ∧ Adds session w₀ (pieces ++ headed opening taken) s.world) ?_ ?_ ?_
  · refine (submit_adds []).mono (fun _ hs => hs) ?_ ?_
    · rintro a s ⟨ha, hs⟩
      exact ⟨⟨ha, List.nil_prefix⟩, by simpa [headed] using hs⟩
    · rintro f s ⟨hs, hf⟩
      exact .inl ⟨[], ⟨nofun, by simpa [headed] using hs⟩, hf⟩
  · intro a taken values rest hrows
    refine .assume fun ha => (row_adds hopening taken values).mono (fun _ hs => hs) ?_ ?_
    · exact fun _ s hs => ⟨hs.1, ⟨ha.1, by simp [hrows]⟩, hs.2⟩
    · refine fun f s hs => hs.imp_left ?_
      rintro ⟨all, hall, hadds, hf⟩
      have hprefix : all <+: a.rows.getD [] := hall.trans (by simp [hrows])
      exact ⟨all, ⟨.of_taken ha.1 hprefix, hadds⟩, .of_sink hf⟩
  · intro a
    refine .assume fun ha => (finish_adds ha.1).mono (fun _ hs => hs) ?_ ?_
    · exact fun _ s hs => ⟨_, .of_taken ha.1 ha.2, hs⟩
    · exact fun f s hs => .inl ⟨_, ⟨.of_taken ha.1 ha.2, hs.1⟩, hs.2⟩

/-- The rows that were taken of a query are written behind what opens them, and its error behind the rows. -/
private def Scanned (session : Session) (w₀ : World) (pieces opening : List Piece)
    (r : Option Engine.Error) (s : Scene Tally) : Prop :=
  ∃ taken, Given w₀.script taken ∧ (∀ e, r = some e → Ending w₀.script taken (.engine e)) ∧
    Adds session w₀ (pieces ++ headed opening taken ++ (r.map .rowError).toList) s.world

private theorem rows_adds {opening : List Piece} {text : List Char} (hopening : Heads opening text) :
    Ensures (fun s => Adds session w₀ pieces s.world) (rows session db sql text [])
      (Scanned session w₀ pieces opening)
      (fun f s => (∃ r, Scanned session w₀ pieces opening r s) ∨ Cut session w₀ pieces opening f s) := by
  have hscanned {taken : List (List Value)} {s : Scene Tally} (h : Rows session w₀ pieces opening taken s) :
      Scanned session w₀ pieces opening none s := ⟨taken, h.1, nofun, by simpa using h.2⟩
  refine .bind (.attempt (Q := fun r s => (∃ taken, Rows session w₀ pieces opening taken s ∧
      ∀ f, r = .error f → Ending w₀.script taken f) ∨
        ∃ f, r = .error f ∧ Cut session w₀ pieces opening f s)
    ((query_rows hopening).mono (fun _ hs => hs) (fun _ s ⟨taken, hs⟩ => .inl ⟨taken, hs, nofun⟩)
      fun f s hs => hs.imp (fun ⟨taken, hs, hf⟩ => ⟨taken, hs, by rintro _ ⟨⟩; exact hf⟩)
        fun hcut => ⟨f, rfl, hcut⟩)) fun r => ?_
  rintro s (⟨taken, hs, hending⟩ | ⟨f, rfl, hcut⟩)
  · cases r with
    | ok _ => exact hscanned hs
    | error f =>
      cases f with
      | engine e =>
        have htold {s : Scene Tally}
            (h : Adds session w₀ (pieces ++ headed opening taken ++ [.rowError e]) s.world) :
            Scanned session w₀ pieces opening (some e) s :=
          ⟨taken, hs.1, by rintro _ ⟨⟩; exact hending _ rfl, h⟩
        refine (Ensures.bind ((put_adds (.rowError e) rfl).onError ?_) fun _ =>
          .bind (Q := fun _ => Scanned session w₀ pieces opening (some e))
            (.modifyOwn fun _ hs => htold hs.2) fun _ => .pure fun _ hs => hs) s hs.2
        rintro f t (h | h)
        · exact .inl ⟨none, hscanned ⟨hs.1, h.1⟩⟩
        · exact .inl ⟨some e, htold h.1⟩
      | _ => exact .inl ⟨none, hscanned hs⟩
  · obtain ⟨-, -, rfl, -⟩ := id hcut
    exact .inr hcut

end Rows

/-- The piece is part of what is written of the table of keys, as the engine shows it. -/
def Piece.Shows (script : Script) : Piece → Prop
  | keys => True
  | row values => ∃ a ∈ script.answers, values ∈ a.rows.getD []
  | rowError e => ∃ a ∈ script.answers, a.fault = some (.error e)
  | _ => False

/-- The table is emptied once where there are rows, before the first of them, and is left alone where there
are none. -/
structure Resets (pieces : List Piece) : Prop where
  first : ∀ before values after, pieces = before ++ .row values :: after → .keys ∈ before
  once : pieces.count .keys ≤ 1
  needed : .keys ∈ pieces → ∃ values, .row values ∈ pieces

/-- The engine found the table corrupt before the first row and came to rows from the other end, before
which the table is not emptied. -/
def Belated (script : Script) (pieces : List Piece) : Prop :=
  ∃ a ∈ script.answers, ∃ (e : Engine.Error) (taken : List (List Value)) (errors : List Engine.Error),
    a.rows.getD [] = [] ∧ a.fault = some (.error e) ∧ e.kind = .corrupt ∧ taken ≠ [] ∧
      pieces = .rowError e :: taken.map .row ++ errors.map .rowError

theorem Resets.of_headed {taken : List (List Value)} {rest : List Piece} (htaken : taken ≠ [])
    (hrest : .keys ∉ rest) : Resets (headed [.keys] taken ++ rest) := by
  obtain ⟨values, taken, rfl⟩ := List.exists_cons_of_ne_nil htaken
  have hrows : .keys ∉ (values :: taken).map Piece.row ++ rest := by simpa using hrest
  refine ⟨?_, ?_, fun _ => ⟨values, by simp [headed]⟩⟩
  · intro before values' after hsplit
    cases before with
    | nil => simp [headed] at hsplit
    | cons p before =>
      obtain ⟨rfl, -⟩ : Piece.keys = p ∧ _ := by simpa [headed] using hsplit
      exact List.mem_cons_self
  · show (Piece.keys :: ((values :: taken).map Piece.row ++ rest)).count .keys ≤ 1
    exact Nat.le_of_eq (List.count_cons_self.trans (congrArg (· + 1) (List.count_eq_zero.2 hrows)))

theorem Resets.of_none {pieces : List Piece} (hkeys : .keys ∉ pieces)
    (hrows : ∀ values, .row values ∉ pieces) : Resets pieces := by
  refine ⟨?_, by rw [List.count_eq_zero.2 hkeys]; exact Nat.zero_le 1, fun h => absurd h hkeys⟩
  rintro before values after rfl
  exact absurd (List.mem_append_right before List.mem_cons_self) (hrows values)

/-- What may be written of the table of keys. -/
def KeysContent (script : Script) (pieces : List Piece) : Prop :=
  (∀ p ∈ pieces, p.Shows script) ∧ (Resets pieces ∨ Belated script pieces)

section KeysContent
variable {script : Script} {taken back : List (List Value)}

theorem Given.shows (h : Given script taken) : ∀ p ∈ taken.map Piece.row, p.Shows script := by
  intro p hp
  obtain ⟨values, hvalues, rfl⟩ := List.mem_map.1 hp
  exact h values hvalues

theorem Given.shows_headed (h : Given script taken) : ∀ p ∈ headed [.keys] taken, p.Shows script := by
  intro p hp
  cases taken with
  | nil => cases hp
  | cons values taken =>
    rcases List.mem_cons.1 hp with rfl | hp
    · trivial
    · exact h.shows p hp

theorem Ending.shows {r : Option Engine.Error} (h : ∀ e, r = some e → Ending script taken (.engine e)) :
    ∀ p ∈ (r.map Piece.rowError).toList, p.Shows script := by
  intro p hp
  obtain ⟨e, rfl, rfl⟩ := Option.map_eq_some_iff.1 (Option.mem_toList.1 hp)
  obtain ⟨a, ha, hfault, -⟩ := h e rfl e rfl
  exact ⟨a, ha, hfault⟩

/-- The rows of one scan, with its error behind them. -/
theorem keysContent_once {r : Option Engine.Error} (htaken : Given script taken)
    (hending : ∀ e, r = some e → Ending script taken (.engine e)) :
    KeysContent script (headed [.keys] taken ++ (r.map .rowError).toList) := by
  refine ⟨?_, .inl ?_⟩
  · exact List.forall_mem_append.2 ⟨htaken.shows_headed, Ending.shows hending⟩
  · cases taken with
    | nil => exact .of_none (by simp [headed]) (by simp [headed])
    | cons values taken => exact .of_headed (List.cons_ne_nil _ _) (by simp)

/-- The rows of a scan that broke off as corrupt, and those of the scan from the other end. -/
theorem keysContent_twice {e : Engine.Error} {r : Option Engine.Error} (htaken : Given script taken)
    (hending : ∀ e', some e = some e' → Ending script taken (.engine e')) (hcorrupt : e.kind = .corrupt)
    (hback : Given script back) (hending' : ∀ e, r = some e → Ending script back (.engine e)) :
    KeysContent script
      (headed [.keys] taken ++ [.rowError e] ++ back.map .row ++ (r.map .rowError).toList) := by
  refine ⟨?_, ?_⟩
  · have hfirst := List.forall_mem_append.2 ⟨htaken.shows_headed, Ending.shows hending⟩
    exact List.forall_mem_append.2 ⟨List.forall_mem_append.2 ⟨hfirst, hback.shows⟩, Ending.shows hending'⟩
  · cases taken with
    | nil =>
      by_cases hnone : back = []
      · exact .inl (.of_none (by simp [headed, hnone]) (by simp [headed, hnone]))
      · obtain ⟨a, ha, hfault, hrows⟩ := hending e rfl e rfl
        refine .inr ⟨a, ha, e, back, r.toList, hrows, hfault, hcorrupt, hnone, ?_⟩
        simp [headed, Option.toList_map]
    | cons values taken =>
      have hresets : Resets (headed [.keys] (values :: taken) ++
          .rowError e :: (back.map .row ++ (r.map .rowError).toList)) :=
        .of_headed (List.cons_ne_nil _ _) (by simp)
      exact .inl (by simpa using hresets)

end KeysContent

variable {session : Session} {db : Connection}

/-- The table has been emptied, and the output takes no more. -/
def CutOff (session : Session) (w : World) (pieces : List Piece) (r : Except Failure Unit) : Prop :=
  pieces = [.keys] ∧ ∃ f, r = .error f ∧ Overflows session w f

private theorem content_adds {w₀ : World} (table : String) :
    Ensures (fun s => Adds session w₀ [] s.world) (content session db table Piece.keys.text)
      (fun _ s => ∃ pieces, Adds session w₀ pieces s.world ∧ KeysContent w₀.script pieces)
      (fun f s => ∃ pieces, Adds session w₀ pieces s.world ∧
        (KeysContent w₀.script pieces ∨ CutOff session w₀ pieces (.error f))) := by
  have hnothing (s : Scene Tally) (hs : Adds session w₀ [] s.world) :
      ∃ pieces, Adds session w₀ pieces s.world ∧ KeysContent w₀.script pieces :=
    ⟨[], hs, by simp, .inl (.of_none (by simp) (by simp))⟩
  have honce {r : Option Engine.Error} {s : Scene Tally} (h : Scanned session w₀ [] [.keys] r s) :
      ∃ pieces, Adds session w₀ pieces s.world ∧ KeysContent w₀.script pieces := by
    obtain ⟨taken, htaken, hending, hs⟩ := h
    exact ⟨_, hs, by simpa using keysContent_once htaken hending⟩
  have hwhole {f : Failure} {s : Scene Tally}
      (h : ∃ pieces, Adds session w₀ pieces s.world ∧ KeysContent w₀.script pieces) :
      ∃ pieces, Adds session w₀ pieces s.world ∧
        (KeysContent w₀.script pieces ∨ CutOff session w₀ pieces (.error f)) :=
    h.imp fun _ h => ⟨h.1, .inl h.2⟩
  refine .bind ((contentQuery_adds table).onError fun _ s hs => hwhole (hnothing s hs)) fun q => ?_
  cases q with
  | none => exact .modifyOwn hnothing
  | some query =>
    refine .bind ((rows_adds .keys).onError fun f s => ?_) fun r => ?_
    · rintro (⟨r, h⟩ | ⟨-, hs, hf⟩)
      · exact hwhole (honce h)
      · exact ⟨_, hs, .inr ⟨rfl, f, rfl, hf⟩⟩
    intro s h
    cases r with
    | none => exact honce h
    | some e =>
      dsimp only
      split
      · next hcorrupt =>
        obtain ⟨taken, htaken, hending, hs⟩ := h
        have htwice {r : Option Engine.Error} {t : Scene Tally}
            (h : Scanned session w₀ (headed [.keys] taken ++ [.rowError e]) [] r t) :
            ∃ pieces, Adds session w₀ pieces t.world ∧ KeysContent w₀.script pieces := by
          obtain ⟨back, hback, hending', ht⟩ := h
          refine ⟨_, ht, ?_⟩
          simpa [headed_nil] using keysContent_twice htaken hending hcorrupt hback hending'
        refine Ensures.discard ((rows_adds .nothing).mono (fun _ hs => hs) (fun _ _ => htwice) ?_) s hs
        rintro f t (⟨r, h⟩ | ⟨⟨⟩, -⟩)
        exact hwhole (htwice h)
      · exact honce h

/-- The rows of the table of keys are written behind one statement that empties it, which is missing where
there are no rows, unless the engine finds the table corrupt before its first row: rows that it comes to from
the other end are then written with nothing before them. The statement stands alone only where the output
takes no more after it. -/
theorem object_resets (session : Session) (db : Connection) (kind sql : Value) (s : Scene Tally) :
    ∃ pieces, Adds session s.world pieces
        (object session db (.text "sqlite_sequence") kind sql s).2.world ∧
      (∀ p ∈ pieces, p.Shows s.world.script) ∧
      (Resets pieces ∨ Belated s.world.script pieces ∨
        CutOff session s.world pieces (object session db (.text "sqlite_sequence") kind sql s).1) := by
  have hobject : Ensures (fun t => Adds session s.world [] t.world)
      (object session db (.text "sqlite_sequence") kind sql)
      (fun _ t => ∃ pieces, Adds session s.world pieces t.world ∧ KeysContent s.world.script pieces)
      (fun f t => ∃ pieces, Adds session s.world pieces t.world ∧
        (KeysContent s.world.script pieces ∨ CutOff session s.world pieces (.error f))) := by
    show Ensures _ (if kind = .text "table" then content session db "sqlite_sequence" Piece.keys.text
      else pure ()) _ _
    split
    · exact content_adds "sqlite_sequence"
    · exact .pure fun t hs => ⟨[], hs, by simp, .inl (.of_none (by simp) (by simp))⟩
  have hends := hobject s (.refl session s.world)
  rcases hend : object session db (.text "sqlite_sequence") kind sql s with ⟨f | _, t⟩ <;> rw [hend] at hends
  · obtain ⟨pieces, hadds, hcontent | hcut⟩ := hends
    · exact ⟨pieces, hadds, hcontent.1, hcontent.2.imp_right .inl⟩
    · refine ⟨pieces, hadds, ?_, .inr (.inr hcut)⟩
      rw [hcut.1]
      exact List.forall_mem_singleton.2 trivial
  · obtain ⟨pieces, hadds, hcontent⟩ := hends
    exact ⟨pieces, hadds, hcontent.1, hcontent.2.imp_right .inl⟩

/-- The engine finds the table of keys corrupt at once, but comes to its row from the other end. -/
def worn : Scene Tally where
  world :=
    let query := String.ofList (contentText "sqlite_sequence".toList ["name".toList, "seq".toList])
    { script := { answers :=
      [{ sql := "PRAGMA table_info(\"sqlite_sequence\");",
         rows := some [[.integer 0, .text "name"], [.integer 1, .text "seq"]] },
       { sql := query,
         fault := some (.error ⟨.corrupt, "database disk image is malformed", some 11⟩) },
       { sql := reversed query,
         rows := some [[.text "INSERT INTO \"sqlite_sequence\" VALUES('t',1)"]] }] } }
  own := {}

/-- The row is written, but the table is not emptied before it. -/
theorem object_keeps_keys :
    let result := object {} { filename := ":memory:" } (.text "sqlite_sequence") (.text "table")
      (.text "CREATE TABLE sqlite_sequence(name,seq)") worn
    result.1.toOption = some () ∧
      result.2.world.written .stdout =
        ["/**** ERROR: (11) database disk image is malformed *****/\n",
         "INSERT INTO \"sqlite_sequence\" VALUES('t',1);\n"] ∧
      "DELETE FROM sqlite_sequence;\n" ∉ result.2.world.written .stdout := by
  decide +kernel

end SqlConsole.Dump

import SqlConsole.Proofs.Dump.Penned
import SqlConsole.Proofs.Execute.Frame
import SqlConsole.Proofs.Execute.Rows
import SqlConsole.Proofs.Statement.Whole
import SqlConsole.Proofs.World.Safe

/-! Rows that are statements, and what is written of them: text that divides into the same statements
again, whatever comments and quotes there are in a row. -/
namespace SqlConsole.Dump
open Act
open Engine (Answer)
open Execute (submit query finish)
open Statement (IsWhole IsStatement EndsInComment isJudged parts lineParts lexemes)
open Sql (Value)

/-- The values of a row with commas between them. -/
def rowText (values : List Value) : List Char := [','].intercalate (values.map (·.shown []))

/-- The text with the semicolon that it gets. -/
def terminated (text : List Char) : List Char :=
  text ++ if hasDashes (lastLine text) then ['\n', ';'] else [';']

theorem rowStatement_eq (values : List Value) :
    rowStatement values = terminated (rowText values) ++ ['\n'] := by
  show rowText values ++ (if hasDashes (lastLine (rowText values)) then ['\n', ';', '\n'] else [';', '\n']) =
    (rowText values ++ if hasDashes (lastLine (rowText values)) then ['\n', ';'] else [';']) ++ ['\n']
  split <;> simp

theorem hasDashes_append (a v : List Char) : hasDashes (a ++ '-' :: '-' :: v) := by
  induction a with
  | nil => rfl
  | cons c a ih =>
    rw [List.cons_append]
    unfold hasDashes
    split
    · rfl
    · next h => rwa [← (List.cons.inj h).2]
    · next h => cases h

/-- The last line reaches back to the last line end. -/
theorem lastLine_append {a v : List Char} (hv : '\n' ∉ v) : ∃ b, lastLine (a ++ v) = b ++ v := by
  have hback : ∀ c ∈ v.reverse, c != '\n' := fun c hc => by
    simpa using ne_of_mem_of_not_mem (List.mem_reverse.1 hc) hv
  rw [lastLine, List.reverse_append, List.takeWhile_append_of_pos hback, List.reverse_append,
    List.reverse_reverse]
  exact ⟨_, rfl⟩

section Terminated
variable {t : List Char}

/-- The semicolon stands behind the text where no comment can hide it. -/
theorem isStatement_terminated (h : IsWhole t) : IsStatement (terminated t) := by
  unfold terminated
  split
  · exact h.isStatement_newline
  · next hdashes =>
    refine h.isStatement_semicolon fun hends => hdashes ?_
    obtain ⟨a, v, rfl, hv⟩ := h.exists_dashes hends
    obtain ⟨b, hb⟩ := lastLine_append (a := a) (v := '-' :: '-' :: v) (by simpa using hv)
    rw [hb]
    exact hasDashes_append b v

theorem isJudged_terminated (h : IsWhole t) : isJudged (terminated t) := by
  have hjudged := h.judged
  unfold terminated
  split <;> simp_all [isJudged]

end Terminated

/-- The statements that rows are. -/
def rowStatements (given : List (List Value)) : List (List Char) :=
  given.map fun values => terminated (rowText values)

theorem flatMap_rowStatement (given : List (List Value)) :
    given.flatMap rowStatement = (rowStatements given).flatMap (· ++ ['\n']) := by
  rw [rowStatements, List.flatMap_map]
  exact List.flatMap_congr fun values _ => rowStatement_eq values

theorem parts_rows {given : List (List Value)} (h : ∀ values ∈ given, IsWhole (rowText values)) :
    parts (given.flatMap rowStatement) = lineParts (rowStatements given) := by
  rw [flatMap_rowStatement]
  refine Statement.parts_lines fun s hs => ?_
  obtain ⟨values, hvalues, rfl⟩ := List.mem_map.1 hs
  exact isStatement_terminated (h values hvalues)

theorem isJudged_rows {given : List (List Value)} (h : ∀ values ∈ given, IsWhole (rowText values)) :
    isJudged (given.flatMap rowStatement) := by
  have hrow (values : List Value) (hvalues : values ∈ given) : '\x00' ∉ rowStatement values := by
    have hjudged := isJudged_terminated (h values hvalues)
    rw [rowStatement_eq]
    simpa [isJudged] using hjudged
  simpa [isJudged] using hrow

/-- What is written before the first row. -/
def heading (opening : List Char) (taken : List (List Value)) : List (List Char) :=
  if taken.isEmpty || opening.isEmpty then [] else [opening]

/-- What is written behind the last row. -/
def remark : Option Engine.Fault → List (List Char)
  | some (.error e) => [rowErrorText e]
  | _ => []

section Rows
variable {session : Session} {db : Connection} {sql : String} {opening : List Char}
  {bindings : List Value} {s : Scene Tally} {asides : List Piece} {a : Answer} {w₀ : World} {σ : Type}

/-- The output takes text, and this has been written there, what is traced or logged to the same sink
first. -/
def Wrote (session : Session) (w₀ : World) (asides : List Piece) (texts : List (List Char))
    (w : World) : Prop :=
  w.Accepts session.output ∧ w.written session.output =
    w₀.written session.output ++ asides.map (fun p => String.ofList p.text) ++ texts.map String.ofList

theorem write_wrote {texts : List (List Char)} (text : List Char) {E : Failure → Scene σ → Prop} :
    Ensures (fun s => Wrote session w₀ asides texts s.world) (Act.write session.output text)
      (fun _ s => Wrote session w₀ asides (texts ++ [text]) s.world) E := by
  rintro s ⟨haccepts, hwritten⟩
  obtain ⟨w, hwrite, hstays, hpast⟩ := Act.exists_write haccepts text
  rw [hwrite]
  refine ⟨(hstays.accepts_iff _).2 haccepts, ?_⟩
  rw [World.written_of_past hpast, hwritten, Deed.textTo?]
  simp

/-- The query ended like its answer does, and all texts that its rows come to have been written. -/
def Ended (session : Session) (w₀ : World) (asides : List Piece)
    (texts : List (List Value) → List (List Char)) (a : Answer) (r : Except Failure Unit)
    (w : World) : Prop :=
  r = ended a.fault ∧ Wrote session w₀ asides (texts (a.rows.getD [])) w

variable (db bindings) in
/-- A query of whose rows some text is written, and none of which ends it. -/
theorem query_ended {s : Scene σ} (each : List String → Nat → List Value → Act σ Bool)
    (texts : List (List Value) → List (List Char)) (hready : Ready session s.world)
    (ha : (s.world.script.answer sql).1 = a) (hnone : texts [] = [])
    (heach : ∀ taken values rest, a.rows.getD [] = taken ++ values :: rest →
      ∀ (asides : List Piece) E,
        Ensures (fun t : Scene σ => Wrote session s.world asides (texts taken) t.world)
          (each a.columns taken.length values)
          (fun stop t => stop = false ∧
            Wrote session s.world asides (texts (taken ++ [values])) t.world) E) :
    ∃ asides : List Piece, (∀ p ∈ asides, p.isAside ∧ session.Listens session.output) ∧
      Ensures (· = s) (query session db sql bindings each)
        (fun _ t => Ended session s.world asides texts a (.ok ()) t.world)
        (fun e t => Ended session s.world asides texts a (.error e) t.world) := by
  obtain ⟨r, w, asides, hsubmit, htakes, hw, hasides⟩ :=
    (Records.refl hready).exists_submit (s := s) db sql bindings
  have hwrote : Wrote session s.world asides (texts []) w :=
    ⟨hw.ready.output, by simpa [hnone] using hw.written⟩
  refine ⟨asides, fun p hp => ⟨hasides p hp, ?_⟩, Execute.query_ensures_taken
    (J := fun a' taken t => a' = a ∧ Wrote session s.world asides (texts taken) t.world) ?_ ?_ ?_⟩
  · have hstems := hw.stems p hp
    cases p with
    | traced => exact .inl hstems.1
    | logged => exact .inr hstems.1
    | _ => cases hasides _ hp
  · rintro _ rfl
    rw [hsubmit]
    rw [ha] at htakes
    cases htakes with
    | granted => exact ⟨rfl, hwrote⟩
    | refused f hrows hfault => exact ⟨by rw [hfault]; rfl, by rw [hrows]; exact hwrote⟩
  · intro a' taken values rest hrows
    refine .assume fun ha' => ?_
    subst ha'
    exact (heach taken values rest hrows asides _).post fun _ _ h => ⟨h.1, rfl, h.2⟩
  · intro a' t ht
    obtain ⟨rfl, ht⟩ := ht
    cases hfault : a'.fault with
    | none =>
      rw [finish, hfault]
      exact ⟨by rw [hfault]; rfl, ht⟩
    | some f =>
      rw [finish, hfault]
      exact ⟨by rw [hfault]; rfl, ht⟩

/-- One more row is written as a statement, the first one behind the heading. -/
private theorem row_wrote (taken : List (List Value)) (values : List Value)
    {E : Failure → Scene Tally → Prop} :
    Ensures
      (fun s => Wrote session w₀ asides (heading opening taken ++ taken.map rowStatement) s.world)
      (do
        if taken.length = 0 && !opening.isEmpty then put session opening
        put session (rowStatement values)
        pure false)
      (fun stop s => stop = false ∧ Wrote session w₀ asides
        (heading opening (taken ++ [values]) ++ (taken ++ [values]).map rowStatement) s.world) E := by
  rw [List.map_append, List.map_singleton, ← List.append_assoc]
  have hput (texts : List (List Char)) (text : List Char) :
      Ensures (fun s => Wrote session w₀ asides texts s.world) (put session text)
        (fun _ s => Wrote session w₀ asides (texts ++ [text]) s.world) E := write_wrote text
  cases taken with
  | nil =>
    cases opening with
    | nil => exact .bind (hput _ _) fun _ => .pure fun _ hs => ⟨rfl, hs⟩
    | cons c r =>
      exact .bind (hput [] (c :: r)) fun _ => .bind (hput _ _) fun _ => .pure fun _ hs => ⟨rfl, hs⟩
  | cons v taken => exact .bind (hput _ _) fun _ => .pure fun _ hs => ⟨rfl, hs⟩

/-- A query with rows: what stands before them, each of them as a statement, and a comment on the error
that ends them. What is traced or logged to the same sink comes before all of that. -/
theorem rows_writes (hready : Ready session s.world) (ha : (s.world.script.answer sql).1 = a) :
    ∃ asides : List Piece, (∀ p ∈ asides, p.isAside ∧ session.Listens session.output) ∧
      (rows session db sql opening bindings s).2.world.written session.output =
        s.world.written session.output ++ asides.map (fun p => String.ofList p.text) ++
          (heading opening (a.rows.getD []) ++ (a.rows.getD []).map rowStatement ++
            remark a.fault).map String.ofList := by
  let texts (taken : List (List Value)) : List (List Char) :=
    heading opening taken ++ taken.map rowStatement
  obtain ⟨asides, hasides, hquery⟩ := query_ended db bindings
    (fun _ index values => do
      if index = 0 && !opening.isEmpty then put session opening
      put session (rowStatement values)
      pure false) texts
    hready ha (by simp [texts, heading]) fun taken values _ _ asides _ => row_wrote taken values
  refine ⟨asides, hasides, ?_⟩
  have hrows : Ensures (· = s) (rows session db sql opening bindings)
      (fun _ s' => Wrote session s.world asides (heading opening (a.rows.getD []) ++
        (a.rows.getD []).map rowStatement ++ remark a.fault) s'.world)
      (fun _ s' => Wrote session s.world asides (heading opening (a.rows.getD []) ++
        (a.rows.getD []).map rowStatement ++ remark a.fault) s'.world) := by
    refine .bind (.attempt (Q := fun r t => Ended session s.world asides texts a r t.world) hquery)
      fun r => ?_
    refine .assume fun hr => ?_
    subst hr
    cases hfault : a.fault with
    | none => exact .pure fun s hs => by simpa [remark] using hs
    | some f =>
      cases f with
      | interrupted => exact .fail fun s hs => by simpa [remark] using hs
      | error e =>
        exact .bind (write_wrote (rowErrorText e)) fun _ => .bind (.modifyOwn fun _ hs => hs) fun _ =>
          .pure fun _ hs => hs
  exact hrows.leads rfl (fun _ _ h => h.2) fun _ _ h => h.2

/-- Rows that are statements are the same statements again where what is written of them is split, each
behind the line end of the one before. No semicolon is lost to a comment: it is the last token of its
part. -/
theorem rows_separate
    (hwhole : ∀ values ∈ (s.world.script.answer sql).1.rows.getD [], IsWhole (rowText values)) :
    let a := (s.world.script.answer sql).1
    let given := a.rows.getD []
    (Ready session s.world →
      ∃ asides : List Piece, (∀ p ∈ asides, p.isAside ∧ session.Listens session.output) ∧
        (rows session db sql opening bindings s).2.world.written session.output =
          s.world.written session.output ++ asides.map (fun p => String.ofList p.text) ++
            (heading opening given ++ given.map rowStatement ++ remark a.fault).map String.ofList) ∧
      isJudged (given.map rowStatement).flatten ∧
      parts (given.map rowStatement).flatten =
        lineParts (given.map fun values => terminated (rowText values)) ∧
      ∀ values ∈ given, ∃ own,
        lexemes (terminated (rowText values)) = (own ++ [⟨.semicolon, [';']⟩], []) := by
  intro a given
  rw [← List.flatMap_def]
  exact ⟨fun hready => rows_writes hready rfl, isJudged_rows hwhole, parts_rows hwhole, fun values hvalues =>
    Statement.lexemes_of_isStatement (isStatement_terminated (hwhole values hvalues))⟩

end Rows

/-- Dashes in a comment, in quotes on the line before the last, and in quotes on the last line. -/
def dashed : Scene Tally where
  world :=
    { script := { answers :=
      [{ sql := "q",
         rows := some
           [[.integer 1, .text "a -- b;"], [.text "'c;--\n'", .null], [.text "/* ; */ 'd--'"]] }] } }
  own := {}

theorem rows_separate_dashed :
    let given := (dashed.world.script.answer "q").1.rows.getD []
    let texts := ["1,a -- b;\n;\n", "'c;--\n',;\n", "/* ; */ 'd--'\n;\n"]
    (∀ values ∈ given, IsWhole (rowText values)) ∧
      (rows {} { filename := ":memory:" } "q" [] [] dashed).2.world.written .stdout = texts ∧
      parts (texts.flatMap String.toList) =
        lineParts ["1,a -- b;\n;".toList, "'c;--\n',;".toList, "/* ; */ 'd--'\n;".toList] := by
  intro given texts
  have hwhole : ∀ values ∈ given, IsWhole (rowText values) := by
    have hall : ∀ values ∈ given, isJudged (rowText values ++ ['\n', ';']) ∧
        Statement.isComplete (rowText values ++ ['\n', ';']) ∧
          Statement.first (rowText values ++ ['\n', ';']) = (rowText values ++ ['\n', ';'], []) := by
      decide +kernel
    exact fun values hvalues => ⟨(hall values hvalues).1, (hall values hvalues).2.1,
      (hall values hvalues).2.2⟩
  obtain ⟨-, -, hparts, -⟩ :=
    @rows_separate {} { filename := ":memory:" } "q" [] [] dashed hwhole
  exact ⟨hwhole, by decide +kernel, hparts⟩

end SqlConsole.Dump

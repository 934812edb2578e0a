import SqlConsole.Proofs.Dump.Objects

/-! A dump from its first line to its last, and what it has asked of the engine meanwhile. -/
namespace SqlConsole.Dump
open Act
open Engine (Answer)
open Sql (Value)

/-- The account of a whole dump: the texts that the engine was given between the savepoint and its
release, the pieces that were written up to the last object, and what was traced or logged to the
output at the release. -/
structure Account (session : Session) (s : Scene Tally) (result : Except Failure Nat × Scene Tally)
    (texts : List String) (inside asides : List Piece) : Prop where
  given : result.2.world.given = s.world.given ++ savepointText :: texts ++ [releaseText]
  /-- What the pieces hold was said by the engine. -/
  stems : ∀ p ∈ inside, p.Stems session (s.world.script.replies (savepointText :: texts))
  catalog : OpensCatalog inside
  onlyAsides : ∀ p ∈ asides, p.isAside ∧
    p.Stems session (s.world.script.replies (savepointText :: texts ++ [releaseText]))
  /-- An error that the engine reports never ends the dump. What does is a user who stops the engine,
  or a row of the catalog that is not as it should be. -/
  failure : ∀ e, result.1 = .error e → (∀ err, e ≠ .engine err) ∧
    ∃ a ∈ s.world.script.replies (savepointText :: texts), Blames a e
  /-- The number of errors that is given back: comments on errors, which are told by how they begin unless
  the database has text that begins so, and tables without columns. -/
  total : ∀ n, result.1 = .ok n →
    n = inside.countP (fun p => !p.isQuoted && Piece.tellsError p.text) +
      (s.world.script.replies (savepointText :: texts)).countP isColumnless
  written : result.2.world.written session.output = s.world.written session.output ++
    ["PRAGMA foreign_keys=OFF;\n", "BEGIN TRANSACTION;\n"] ++
    inside.map (fun p => String.ofList p.text) ++
    (if .catalogOn ∈ inside then ["PRAGMA writable_schema=OFF;\n"] else []) ++
    asides.map (fun p => String.ofList p.text) ++
    match result.1 with
    | .ok n => [if n = 0 then "COMMIT;\n" else "ROLLBACK; -- due to errors\n"]
    | .error _ => []

variable {session : Session} {db : Connection} {s : Scene Tally}

/-- A line of its own is written. -/
theorem exists_putLine (hready : Ready session s.world) (line : String) :
    ∃ w, putLine session line s = (.ok (), ⟨w, s.own⟩) ∧ World.Stays session.output s.world w ∧
      w.given = s.world.given ∧
      w.written session.output = s.world.written session.output ++ [line ++ "\n"] := by
  obtain ⟨w, hwrite, hstays, hpast⟩ := Act.exists_write hready.output (line.toList ++ ['\n'])
  refine ⟨w, hwrite, hstays, ?_, ?_⟩
  · rw [World.given, World.given, hpast, List.filterMap_cons_none rfl]
  · have htext : String.ofList (line.toList ++ ['\n']) = line ++ "\n" := by
      rw [String.ofList_append, String.ofList_toList]
    rw [World.written_of_past hpast, htext]
    simp [Deed.textTo?]

theorem Sound.refl (hready : Ready session s.world) (hown : s.own = {}) :
    Sound session s.world id [] 0 s := by
  refine ⟨[], [], .refl hready, by simp, by simp, ?_, ?_⟩
  · simp [hown, Engine.Script.replies]
  · simp [hown, Orderly]

/-- What is written at the end leaves the catalog as it was found. -/
theorem exists_release (db : Connection) (hready : Ready session s.world)
    (hsucceeds : (s.world.script.answer releaseText).1.Succeeds) :
    ∃ (w : World) (asides : List Piece),
      release session db s = (.ok (), ⟨w, { s.own with catalogWritable := false }⟩) ∧
      Ready session w ∧ w.given = s.world.given ++ [releaseText] ∧
      w.written session.output = s.world.written session.output ++
        (if s.own.catalogWritable then ["PRAGMA writable_schema=OFF;\n"] else []) ++
        asides.map (fun p => String.ofList p.text) ∧
      ∀ p ∈ asides, p.isAside ∧
        p.Stems session [(s.world.script.answer releaseText).1] := by
  have hperform {s : Scene Tally} (hready : Ready session s.world)
      (hsucceeds : (s.world.script.answer releaseText).1.Succeeds) :
      ∃ (w : World) (asides : List Piece),
        Execute.perform session db releaseText [] s = (.ok (), ⟨w, s.own⟩) ∧
        Records session s.world [releaseText] asides w ∧ ∀ p ∈ asides, p.isAside :=
    (Records.refl hready).exists_perform db [] hsucceeds
  obtain ⟨w₀, errors, writable⟩ := s
  cases writable with
  | false =>
    obtain ⟨w, asides, hrun, hw, hasides⟩ := hperform hready hsucceeds
    exact ⟨w, asides, hrun, hw.ready, hw.given, by simpa using hw.written,
      fun p hp => ⟨hasides p hp, hw.stems p hp⟩⟩
  | true =>
    obtain ⟨w₁, hline, hstays, hgiven, hwritten⟩ :=
      exists_putLine hready "PRAGMA writable_schema=OFF;"
    obtain ⟨w, asides, hrun, hw, hasides⟩ :=
      hperform (s := ⟨w₁, errors, false⟩) (hready.of_target hstays.target hstays.taking)
        (by rwa [hstays.script])
    refine ⟨w, asides, (Act.bind_ok hline _).trans hrun, hw.ready, ?_, ?_, fun p hp =>
      ⟨hasides p hp, ?_⟩⟩
    · rw [hw.given, hgiven]
    · rw [hw.written, hwritten]
      rfl
    · have := hw.stems p hp
      rwa [hstays.script] at this

/-- The body of a dump leads to an account of it, whatever tally it comes to. -/
theorem exists_body (db : Connection) (hready : Ready session s.world) (hown : s.own = {})
    (patterns : List String) :
    ∃ r w t texts inside, body session db patterns s = (r, ⟨w, t⟩) ∧
      Records session s.world texts inside w ∧ releaseText ∉ texts ∧
      t.errors = inside.countP (·.isError) +
        (s.world.script.replies texts).countP isColumnless ∧
      Orderly t.catalogWritable inside ∧
      ∀ e, r = .error e → (∀ err, e ≠ .engine err) ∧
        ∃ a ∈ s.world.script.replies texts, Blames a e := by
  have hends := body_sound db patterns s (Sound.refl hready hown)
  rcases hbody : body session db patterns s with ⟨e | _, w, t⟩ <;> rw [hbody] at hends
  · obtain ⟨⟨a, ⟨texts, inside, hrecords, hrelease, hknown, hcount, horderly⟩, hblames⟩, hengine⟩ :=
      hends
    refine ⟨_, w, t, texts, inside, rfl, hrecords, hrelease, hcount, horderly, ?_⟩
    rintro _ ⟨rfl⟩
    exact ⟨hengine, a, hknown List.mem_cons_self, hblames⟩
  · obtain ⟨texts, inside, hrecords, hrelease, -, hcount, horderly⟩ := hends
    exact ⟨_, w, t, texts, inside, rfl, hrecords, hrelease, hcount, horderly, by simp⟩

/-- The stages of a dump: the world after the first lines, after the savepoint, after the body, which
ended with `r` and the tally `t`, and after the release. -/
private structure Stages (session : Session) (s : Scene Tally) (texts : List String)
    (opening inside asides : List Piece) (r : Except Failure Unit) (t : Tally)
    (w₁ w₂ w₃ w₄ : World) : Prop where
  script : w₁.script = s.world.script
  given : w₁.given = s.world.given
  written : w₁.written session.output = s.world.written session.output ++
    ["PRAGMA foreign_keys=OFF;\n", "BEGIN TRANSACTION;\n"]
  savepoint : Records session w₁ [savepointText] opening w₂
  opening : ∀ p ∈ opening, p.isAside
  body : Records session w₂ texts inside w₃
  errors : t.errors = inside.countP (·.isError) + (w₂.script.replies texts).countP isColumnless
  orderly : Orderly t.catalogWritable inside
  fails : ∀ e, r = .error e → (∀ err, e ≠ .engine err) ∧
    ∃ a ∈ w₂.script.replies texts, Blames a e
  givenReleased : w₄.given = w₃.given ++ [releaseText]
  writtenReleased : w₄.written session.output = w₃.written session.output ++
    (if t.catalogWritable then ["PRAGMA writable_schema=OFF;\n"] else []) ++
    asides.map (fun p => String.ofList p.text)
  asides : ∀ p ∈ asides, p.isAside ∧ p.Stems session [(w₃.script.answer releaseText).1]

section Stages
variable {texts : List String} {opening inside asides : List Piece} {r : Except Failure Unit}
  {t : Tally} {w₁ w₂ w₃ w₄ : World}

private theorem Stages.script_savepoint
    (h : Stages session s texts opening inside asides r t w₁ w₂ w₃ w₄) :
    w₂.script = (s.world.script.answer savepointText).2 := by
  rw [h.savepoint.script, h.script]
  rfl

private theorem Stages.replies
    (h : Stages session s texts opening inside asides r t w₁ w₂ w₃ w₄) :
    s.world.script.replies (savepointText :: texts) =
      (s.world.script.answer savepointText).1 :: w₂.script.replies texts := by
  rw [h.script_savepoint]
  rfl

/-- What comes after the release depends on how the body ended. -/
private theorem Stages.account
    (h : Stages session s texts opening inside asides r t w₁ w₂ w₃ w₄)
    {result : Except Failure Nat × Scene Tally} (hgiven : result.2.world.given = w₄.given)
    (hwritten : result.2.world.written session.output = w₄.written session.output ++
      match result.1 with
      | .ok n => [if n = 0 then "COMMIT;\n" else "ROLLBACK; -- due to errors\n"]
      | .error _ => [])
    (hfail : ∀ e, result.1 = .error e → r = .error e)
    (htotal : ∀ n, result.1 = .ok n → n = t.errors) :
    Account session s result texts (opening ++ inside) asides := by
  have hcatalog : Orderly t.catalogWritable (opening ++ inside) :=
    h.orderly.prepend fun p hp => Piece.isCatalog_of_isAside (h.opening p hp)
  refine ⟨?_, ?_, hcatalog.opensCatalog, ?_, ?_, ?_, ?_⟩
  · rw [hgiven, h.givenReleased, h.body.given, h.savepoint.given, h.given]
    simp
  · intro p hp
    rw [h.replies]
    rcases List.mem_append.1 hp with hp | hp
    · refine (h.savepoint.stems p hp).mono fun a ha => ?_
      obtain rfl : a = (w₁.script.answer savepointText).1 := List.mem_singleton.1 ha
      rw [h.script]
      exact List.mem_cons_self
    · exact (h.body.stems p hp).mono (List.subset_cons_self _ _)
  · intro p hp
    obtain ⟨haside, hstems⟩ := h.asides p hp
    refine ⟨haside, hstems.mono fun a ha => ?_⟩
    rw [Engine.Script.replies_concat]
    refine List.mem_append_right _ (List.mem_singleton.2 ?_)
    rw [List.mem_singleton.1 ha, h.body.script, h.script_savepoint]
    rfl
  · intro e he
    obtain ⟨hengine, a, ha, hblames⟩ := h.fails e (hfail e he)
    exact ⟨hengine, a, h.replies ▸ List.mem_cons_of_mem _ ha, hblames⟩
  · intro n hn
    have hplain : isColumnless (s.world.script.answer savepointText).1 = false := by
      have hasks : asksColumns savepointText = false := by decide
      rw [isColumnless, Engine.Script.sql_answer, hasks]
      rfl
    simp only [← Piece.isError_eq]
    rw [htotal n hn, h.errors, h.replies, List.countP_append, Piece.countP_asides h.opening,
      List.countP_cons_of_neg (by simp [hplain]), Nat.zero_add]
  · rw [hwritten, h.writtenReleased, h.body.written, h.savepoint.written, h.written]
    simp only [hcatalog.mem_catalogOn, List.map_append, List.append_assoc]

end Stages

/-- Where neither the savepoint nor its release fails there is an account of the dump. -/
theorem script_account (patterns : List String) (hready : Ready session s.world)
    (hsavepoint : (s.world.script.answer savepointText).1.Succeeds)
    (hrelease : (s.world.script.answer releaseText).1.Succeeds) :
    ∃ texts inside asides, Account session s (script session db patterns s) texts inside asides := by
  obtain ⟨w₀, hfirst, hstays₀, hgiven₀, hwritten₀⟩ :=
    exists_putLine (s := (⟨s.world, {}⟩ : Scene Tally)) hready "PRAGMA foreign_keys=OFF;"
  obtain ⟨w₁, hsecond, hstays₁, hgiven₁, hwritten₁⟩ :=
    exists_putLine (s := (⟨w₀, {}⟩ : Scene Tally)) (hready.of_target hstays₀.target hstays₀.taking)
      "BEGIN TRANSACTION;"
  have hready₁ : Ready session w₁ :=
    (hready.of_target hstays₀.target hstays₀.taking).of_target hstays₁.target hstays₁.taking
  have hscript₁ : w₁.script = s.world.script := hstays₁.script.trans hstays₀.script
  obtain ⟨w₂, opening, hsave, hw₂, hopening⟩ :=
    Records.exists_perform (s := (⟨w₁, {}⟩ : Scene Tally)) (.refl hready₁) db []
      (by rwa [hscript₁] : (w₁.script.answer savepointText).1.Succeeds)
  obtain ⟨r, w₃, t, texts, inside, hbody, hw₃, hnotin, hcount, horderly, hfails⟩ :=
    exists_body (s := (⟨w₂, {}⟩ : Scene Tally)) db hw₂.ready rfl patterns
  have hanswer : (w₃.script.answer releaseText).1 = (s.world.script.answer releaseText).1 := by
    rw [hw₃.script, Engine.Script.answer_after fun u hu => ne_of_mem_of_not_mem hu hnotin,
      hw₂.script, hscript₁]
    exact Engine.Script.answer_answer_of_ne (by decide) _
  obtain ⟨w₄, asides, hend, hready₄, hgiven₄, hwritten₄, hasides⟩ :=
    exists_release (s := (⟨w₃, t⟩ : Scene Tally)) db hw₃.ready (by rwa [hanswer])
  have hstages : Stages session s texts opening inside asides r t w₁ w₂ w₃ w₄ :=
    ⟨hscript₁, hgiven₁.trans hgiven₀, by rw [hwritten₁, hwritten₀]; simp, hw₂, hopening, hw₃, hcount,
      horderly, hfails, hgiven₄, hwritten₄, hasides⟩
  have hensured : (body session db patterns).ensuring (release session db) ⟨w₂, {}⟩ =
      (r, ⟨w₄, { t with catalogWritable := false }⟩) := by
    rw [Act.ensuring, hbody, hend]
  have hstart : script session db patterns s =
      ((body session db patterns).ensuring (release session db) >>= fun _ => do
        let errors := (← Act.own).errors
        putLine session (if errors = 0 then "COMMIT;" else "ROLLBACK; -- due to errors")
        pure errors) ⟨w₂, {}⟩ :=
    (Act.bind_ok hfirst _).trans ((Act.bind_ok hsecond _).trans (Act.bind_ok hsave _))
  refine ⟨texts, opening ++ inside, asides, ?_⟩
  rw [hstart]
  cases r with
  | error e =>
    rw [Act.bind_error hensured]
    exact hstages.account rfl (by simp) (fun e' h => by rw [Except.error.inj h]) (by simp)
  | ok _ =>
    obtain ⟨w₅, hline, -, hgiven₅, hwritten₅⟩ :=
      exists_putLine (s := (⟨w₄, { t with catalogWritable := false }⟩ : Scene Tally)) hready₄
        (if t.errors = 0 then "COMMIT;" else "ROLLBACK; -- due to errors")
    have hresult : (do
        let errors := (← Act.own).errors
        putLine session (if errors = 0 then "COMMIT;" else "ROLLBACK; -- due to errors")
        pure errors : Act Tally Nat) ⟨w₄, { t with catalogWritable := false }⟩ =
          (.ok t.errors, ⟨w₅, { t with catalogWritable := false }⟩) :=
      Act.bind_ok hline _
    rw [Act.bind_ok hensured, hresult]
    have hlast : (if t.errors = 0 then "COMMIT;" else "ROLLBACK; -- due to errors") ++ "\n" =
        if t.errors = 0 then "COMMIT;\n" else "ROLLBACK; -- due to errors\n" := by
      split <;> decide
    rw [hlast] at hwritten₅
    exact hstages.account hgiven₅ hwritten₅ (by simp) fun n hn => (Except.ok.inj hn).symm

/-- A catalog with a virtual table and a table without columns, which cannot be read to its end. -/
def sample : Scene Tally where
  world :=
    { script := { answers := [
        { sql := tablesQuery, rows := some [
          [.text "v", .text "table", .text "CREATE VIRTUAL TABLE v USING m"],
          [.text "t", .text "table", .text "CREATE TABLE t()"]] },
        { sql := othersQuery, fault := some (.error ⟨.io, "disk I/O error", some 10⟩) }] } }
  own := {}

theorem script_account_sample :
    let result := script {} { filename := ":memory:" } [] sample
    result.1.toOption = some 2 ∧
      ∃ texts inside asides, Account {} sample result texts inside asides := by
  intro result
  have hready : Ready {} sample.world := ⟨trivial, by simp, by simp⟩
  have hsavepoint : (sample.world.script.answer savepointText).1.Succeeds := by
    intro
    cbv
  have hrelease : (sample.world.script.answer releaseText).1.Succeeds := by
    intro
    cbv
  exact ⟨by decide +kernel, script_account [] hready hsavepoint hrelease⟩

end SqlConsole.Dump

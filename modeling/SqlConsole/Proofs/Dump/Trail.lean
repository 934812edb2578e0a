import SqlConsole.Proofs.Dump.Piece
import SqlConsole.Proofs.World.Discreet
import SqlConsole.Proofs.World.Ensures
import SqlConsole.Proofs.World.Sinks

/-! What a dump has given to the engine and what it has written, up to some point. -/
namespace SqlConsole.Dump
open Act
open Engine (Answer)
open Execute (submit perform finish)
open Sql (Value)

/-- All that the session writes to takes text. -/
structure Ready (session : Session) (w : World) : Prop where
  output : w.Accepts session.output
  trace : ∀ k, session.trace = some k → w.Accepts k
  log : ∀ k, session.log = some k → w.Accepts k

theorem Ready.of_target {session : Session} {w w' : World} (h : Ready session w)
    (htarget : ∀ id, w'.target? id = w.target? id) (htaking : w'.taking = w.taking) :
    Ready session w' := by
  have haccepts (k : Sink) (hk : w.Accepts k) : w'.Accepts k := by
    refine (World.accepts_congr ?_ (World.refuses_congr htaking k)).2 hk
    cases k with
    | opened id name => rw [World.IsOpen, World.IsOpen, htarget]
    | _ => exact .rfl
  exact ⟨haccepts _ h.output, fun k hk => haccepts k (h.trace k hk),
    fun k hk => haccepts k (h.log k hk)⟩

/-- From the world `w₀` on, the engine was given the texts and the pieces were written. -/
structure Records (session : Session) (w₀ : World) (texts : List String) (pieces : List Piece)
    (w : World) : Prop where
  given : w.given = w₀.given ++ texts
  script : w.script = w₀.script.after texts
  written : w.written session.output =
    w₀.written session.output ++ pieces.map fun p => String.ofList p.text
  stems : ∀ p ∈ pieces, p.Stems session (w₀.script.replies texts)
  ready : Ready session w

section Records
variable {session : Session} {w₀ w w' : World} {texts : List String} {pieces : List Piece}
variable {σ : Type} {s : Scene σ}

theorem Records.refl (hready : Ready session w₀) : Records session w₀ [] [] w₀ :=
  ⟨by simp, rfl, by simp, by simp, hready⟩

namespace Records

/-- Only the script, the past and the sinks matter. -/
theorem congr (h : Records session w₀ texts pieces w) (hscript : w'.script = w.script)
    (hgiven : w'.given = w.given)
    (hwritten : w'.written session.output = w.written session.output)
    (htarget : ∀ id, w'.target? id = w.target? id) (htaking : w'.taking = w.taking) :
    Records session w₀ texts pieces w' :=
  ⟨hgiven.trans h.given, hscript.trans h.script, hwritten.trans h.written, h.stems,
    h.ready.of_target htarget htaking⟩

theorem note (h : Records session w₀ texts pieces w) {d : Deed} (hgiven : d.given? = none)
    (hwritten : d.textTo? session.output = none) :
    Records session w₀ texts pieces { w with past := d :: w.past } :=
  h.congr rfl (by simp [World.given_note, hgiven]) (by simp [World.written_note, hwritten])
    (fun _ => rfl) rfl

/-- Another text is given to the engine. -/
theorem ask (h : Records session w₀ texts pieces w) (sql : String) (bindings : List Value) :
    Records session w₀ (texts ++ [sql]) pieces
      { w with
        script := (w.script.answer sql).2
        past := .engine (.execute sql bindings) :: w.past } where
  given := by
    have hgiven := World.given_note w (.engine (.execute sql bindings))
    simp only [Deed.given?, Option.toList_some, h.given, List.append_assoc] at hgiven
    exact hgiven
  script := by rw [Engine.Script.after_concat, ← h.script]
  written := by
    have hwritten := w.written_note (.engine (.execute sql bindings)) session.output
    simp only [Deed.textTo?, Option.toList_none, List.append_nil] at hwritten
    exact hwritten.trans h.written
  stems p hp := (h.stems p hp).mono (by
    rw [Engine.Script.replies_concat]
    exact List.subset_append_left _ _)
  ready := h.ready.of_target (fun _ => rfl) rfl

/-- Text is written to a sink, which counts where that is the output. -/
theorem exists_write (h : Records session w₀ texts pieces s.world) {k : Sink}
    (hk : s.world.Accepts k) {p : Piece}
    (hp : k = session.output → p.Stems session (w₀.script.replies texts)) :
    ∃ w, Act.write k p.text s = (.ok (), ⟨w, s.own⟩) ∧
      Records session w₀ texts (pieces ++ if k = session.output then [p] else []) w := by
  obtain ⟨w, hwrite, hstays, hpast⟩ := Act.exists_write hk p.text
  have hgiven : w.given = s.world.given := by
    rw [World.given, World.given, hpast, List.filterMap_cons_none rfl]
  refine ⟨w, hwrite, hgiven.trans h.given, hstays.script.trans h.script, ?_, ?_,
    h.ready.of_target hstays.target hstays.taking⟩
  · rw [World.written_of_past hpast, h.written, Deed.textTo?]
    split <;> simp
  · intro q hq
    rcases List.mem_append.1 hq with hq | hq
    · exact h.stems q hq
    · split at hq
      · next hout => exact List.mem_singleton.1 hq ▸ hp hout
      · cases hq

theorem exists_flush (h : Records session w₀ texts pieces s.world) {k : Sink} (hk : s.world.Accepts k) :
    ∃ w, Act.flush k s = (.ok (), ⟨w, s.own⟩) ∧ Records session w₀ texts pieces w := by
  obtain ⟨w, hflush, hstays, hpast⟩ := Act.exists_flush hk
  exact ⟨w, hflush, h.congr hstays.script (by rw [World.given, World.given, hpast])
    (by rw [World.written, World.written, hpast]) hstays.target hstays.taking⟩

private theorem forall_mem_ite {c : Prop} [Decidable c] {p : Piece} (hp : p.isAside) :
    ∀ q ∈ if c then [p] else [], q.isAside := by
  split <;> simp [hp]

theorem exists_tell (h : Records session w₀ texts pieces s.world) {notice : Int × String}
    (hnotice : ∃ a ∈ w₀.script.replies texts, notice ∈ a.notices) :
    ∃ w asides, Execute.tell session notice s = (.ok (), ⟨w, s.own⟩) ∧
      Records session w₀ texts (pieces ++ asides) w ∧ ∀ p ∈ asides, p.isAside := by
  unfold Execute.tell
  cases hk : session.log with
  | none => exact ⟨s.world, [], rfl, by simpa using h, by simp⟩
  | some k =>
    obtain ⟨w, hwrite, hw⟩ := h.exists_write (p := .logged notice) (h.ready.log k hk)
      fun hout => ⟨hout ▸ hk, hnotice⟩
    obtain ⟨w', hflush, hw'⟩ := exists_flush (s := (⟨w, s.own⟩ : Scene σ)) hw (hw.ready.log k hk)
    exact ⟨w', _, (Act.bind_ok hwrite _).trans hflush, hw', forall_mem_ite rfl⟩

theorem exists_tellAll (h : Records session w₀ texts pieces s.world) (logging : Bool) {a : Answer}
    (ha : a ∈ w₀.script.replies texts) :
    ∃ w asides, Execute.tellAll session logging a s = (.ok (), ⟨w, s.own⟩) ∧
      Records session w₀ texts (pieces ++ asides) w ∧ ∀ p ∈ asides, p.isAside := by
  unfold Execute.tellAll
  split
  · have hforM (notices : List (Int × String)) (hsub : notices ⊆ a.notices) {s : Scene σ}
        {pieces : List Piece} (h : Records session w₀ texts pieces s.world) :
        ∃ w asides, notices.forM (Execute.tell session) s = (.ok (), ⟨w, s.own⟩) ∧
          Records session w₀ texts (pieces ++ asides) w ∧ ∀ p ∈ asides, p.isAside := by
      induction notices generalizing s pieces with
      | nil => exact ⟨s.world, [], rfl, by simpa using h, by simp⟩
      | cons n notices ih =>
        obtain ⟨hn, hsub⟩ := List.cons_subset.1 hsub
        obtain ⟨w, asides, htell, hw, hasides⟩ := h.exists_tell ⟨a, ha, hn⟩
        obtain ⟨w', asides', hrest, hw', hasides'⟩ := ih hsub (s := ⟨w, s.own⟩) hw
        refine ⟨w', asides ++ asides', (Act.bind_ok htell _).trans hrest, by simpa using hw', ?_⟩
        intro p hp
        exact (List.mem_append.1 hp).elim (hasides p) (hasides' p)
    exact hforM a.notices (List.Subset.refl _) h
  · exact ⟨s.world, [], rfl, by simpa using h, by simp⟩

theorem exists_trace (h : Records session w₀ texts pieces s.world) (db : Connection) {a : Answer}
    (ha : a ∈ w₀.script.replies texts) :
    ∃ w asides, Execute.trace session db a.sql s = (.ok (), ⟨w, s.own⟩) ∧
      Records session w₀ texts (pieces ++ asides) w ∧ ∀ p ∈ asides, p.isAside := by
  unfold Execute.trace
  cases db.traced with
  | false => exact ⟨s.world, [], rfl, by simpa using h, by simp⟩
  | true =>
    cases hk : session.trace with
    | none => exact ⟨s.world, [], rfl, by simpa using h, by simp⟩
    | some k =>
      obtain ⟨w, hwrite, hw⟩ := h.exists_write (p := .traced a.sql) (h.ready.trace k hk)
        fun hout => ⟨hout ▸ hk, a, ha, rfl⟩
      exact ⟨w, _, hwrite, hw, forall_mem_ite rfl⟩

end Records

/-- How the engine takes a text, by its answer: it refuses a text that has a fault instead of rows. -/
inductive Takes (a : Answer) : Except Failure Answer → Prop
  | granted : Takes a (.ok a)
  | refused (f : Engine.Fault) (hrows : a.rows = none) (hfault : a.fault = some f) :
      Takes a (.error (.ofFault f))

theorem permit_cases (a : Answer) (s : Scene σ) :
    Execute.permit a s = (.ok (), s) ∧ (a.rows = none → a.fault = none) ∨
      ∃ f, a.rows = none ∧ a.fault = some f ∧ Execute.permit a s = (.error (.ofFault f), s) := by
  cases hrows : a.rows with
  | some rows => exact .inl ⟨by simp [Execute.permit, hrows, Act.pure_apply], by simp⟩
  | none =>
    cases hfault : a.fault with
    | none => exact .inl ⟨by simp [Execute.permit, hrows, hfault, Act.raise, Act.pure_apply], by simp⟩
    | some f =>
      exact .inr ⟨f, rfl, rfl, by simp [Execute.permit, hrows, hfault, Act.raise, Act.fail]⟩

/-- Another text is given to the engine, whose answer is heard then. -/
theorem Records.exists_submit (h : Records session w₀ texts pieces s.world) (db : Connection)
    (sql : String) (bindings : List Value) :
    ∃ r w asides, submit session db sql bindings s = (r, ⟨w, s.own⟩) ∧
      Takes (s.world.script.answer sql).1 r ∧
      Records session w₀ (texts ++ [sql]) (pieces ++ asides) w ∧ ∀ p ∈ asides, p.isAside := by
  generalize ha : (s.world.script.answer sql).1 = a
  have hheard : a ∈ w₀.script.replies (texts ++ [sql]) := by
    rw [Engine.Script.replies_concat, ← h.script, ha]
    exact List.mem_append_right _ (List.mem_singleton_self a)
  have hsql : a.sql = sql := ha ▸ Engine.Script.sql_answer s.world.script sql
  have hasked := h.ask sql bindings
  generalize hw : ({ s.world with
      script := (s.world.script.answer sql).2
      past := .engine (.execute sql bindings) :: s.world.past } : World) = w at hasked
  have hsubmit : submit session db sql bindings s =
      ((do Execute.tellAll session s.world.logging a; Execute.permit a; pure a) >>= fun a => do
        Act.note (.began sql)
        Execute.trace session db sql
        pure a : Act σ Answer) ⟨w, s.own⟩ := by
    subst ha hw
    rfl
  obtain ⟨w₁, asides₁, htell, hw₁, hasides₁⟩ :=
    exists_tellAll (s := (⟨w, s.own⟩ : Scene σ)) hasked s.world.logging hheard
  rw [hsubmit]
  rcases permit_cases a (⟨w₁, s.own⟩ : Scene σ) with ⟨hpermit, hfault⟩ | ⟨f, hrows, hfault, hpermit⟩
  · have hnoted := hw₁.note (d := .began sql) rfl rfl
    obtain ⟨w₂, asides₂, htrace, hw₂, hasides₂⟩ :=
      exists_trace (s := (⟨_, s.own⟩ : Scene σ)) hnoted db hheard
    refine ⟨.ok a, w₂, asides₁ ++ asides₂, ?_, .granted, by simpa using hw₂, ?_⟩
    · rw [Act.bind_ok ((Act.bind_ok htell _).trans (Act.bind_ok hpermit _))]
      have hnote : Act.note (.began sql) (⟨w₁, s.own⟩ : Scene σ) =
          (.ok (), ⟨{ w₁ with past := .began sql :: w₁.past }, s.own⟩) := rfl
      rw [hsql] at htrace
      rw [Act.bind_ok hnote, Act.bind_ok htrace]
      rfl
    · intro p hp
      exact (List.mem_append.1 hp).elim (hasides₁ p) (hasides₂ p)
  · refine ⟨.error (.ofFault f), w₁, asides₁, ?_, .refused f hrows hfault, hw₁, hasides₁⟩
    exact Act.bind_error ((Act.bind_ok htell _).trans (Act.bind_error hpermit _)) _

theorem finish_cases (h : Records session w₀ texts pieces s.world) (a : Answer) :
    ∃ w, Records session w₀ texts pieces w ∧
      (a.fault = none ∧ finish a s = (.ok (), ⟨w, s.own⟩) ∨
        ∃ f, a.fault = some f ∧ finish a s = (.error (.ofFault f), ⟨w, s.own⟩)) := by
  refine ⟨{ s.world with counting := s.world.counting.map (·.add a.counters) },
    h.congr rfl rfl rfl (fun _ => rfl) rfl, ?_⟩
  cases hfault : a.fault with
  | none => exact .inl ⟨rfl, by rw [finish, hfault]; rfl⟩
  | some f => exact .inr ⟨f, rfl, by rw [finish, hfault]; rfl⟩

/-- A text that succeeds is given to the engine, and no rows are taken. -/
theorem Records.exists_perform (h : Records session w₀ texts pieces s.world) (db : Connection)
    {sql : String} (bindings : List Value) (ha : (s.world.script.answer sql).1.Succeeds) :
    ∃ w asides, perform session db sql bindings s = (.ok (), ⟨w, s.own⟩) ∧
      Records session w₀ (texts ++ [sql]) (pieces ++ asides) w ∧ ∀ p ∈ asides, p.isAside := by
  obtain ⟨r, w, asides, hsubmit, htakes, hw, hasides⟩ := h.exists_submit db sql bindings
  generalize (s.world.script.answer sql).1 = a at ha htakes
  cases htakes with
  | refused f hrows hfault =>
    have hnone : a.fault = none := ha (by simp [hrows])
    rw [hnone] at hfault
    cases hfault
  | granted =>
    rw [perform, Act.bind_ok hsubmit]
    split
    · next hempty =>
      obtain ⟨w', hw', ⟨hfault, hfinish⟩ | ⟨f, hfault, hfinish⟩⟩ :=
        finish_cases (s := (⟨w, s.own⟩ : Scene σ)) hw a
      · exact ⟨w', asides, hfinish, hw', hasides⟩
      · rw [ha hempty] at hfault
        cases hfault
    · exact ⟨w, asides, rfl, hw, hasides⟩

section Gather
variable {α : Type} {pick : List Value → Except RowFault α} {rows : List (List Value)} {found : List α}

/-- What is kept of a row. -/
private def keepPicked (pick : List Value → Except RowFault α) (values : List Value) : Act (List α) Bool :=
  match pick values with
  | .ok a => do
    Act.modifyOwn (a :: ·)
    pure false
  | .error f => Act.fail (.catalogRow f)

private theorem gather_apply (db : Connection) (sql : String) (bindings : List Value) :
    Execute.gather session db sql bindings pick s =
      Act.within ([] : List α) (do
        Execute.query session db sql bindings fun _ _ values => keepPicked pick values
        pure (← Act.own).reverse) s := rfl

private theorem takeRows_keepPicked (hrows : rows.map pick = found.map Except.ok) (index : Nat)
    (w : World) (kept : List α) :
    Execute.takeRows (fun _ => keepPicked pick) index rows ⟨w, kept⟩ =
      (.ok true, ⟨w, found.reverse ++ kept⟩) := by
  induction rows generalizing found index kept with
  | nil =>
    obtain rfl : found = [] := by simpa using hrows.symm
    rfl
  | cons values rows ih =>
    obtain ⟨a, found, rfl⟩ := List.exists_cons_of_ne_nil (l := found) (by rintro rfl; cases hrows)
    obtain ⟨ha, hrest⟩ := List.cons.inj hrows
    have hkeep : keepPicked pick values ⟨w, kept⟩ = (.ok false, ⟨w, a :: kept⟩) := by
      rw [keepPicked, ha]
      rfl
    rw [Execute.takeRows, Act.bind_ok hkeep]
    simpa using ih hrest (index + 1) (a :: kept)

/-- A text that succeeds is given to the engine, and its rows are kept as they are picked. -/
theorem Records.exists_gather (h : Records session w₀ texts pieces s.world) (db : Connection)
    {sql : String} (bindings : List Value)
    (hrows : ((s.world.script.answer sql).1.rows.getD []).map pick = found.map Except.ok)
    (hfault : (s.world.script.answer sql).1.fault = none) :
    ∃ w asides, Execute.gather session db sql bindings pick s = (.ok found, ⟨w, s.own⟩) ∧
      Records session w₀ (texts ++ [sql]) (pieces ++ asides) w ∧ ∀ p ∈ asides, p.isAside := by
  obtain ⟨r, w, asides, hsubmit, htakes, hw, hasides⟩ :=
    Records.exists_submit (s := (⟨s.world, []⟩ : Scene (List α))) h db sql bindings
  generalize (s.world.script.answer sql).1 = a at hrows hfault htakes
  cases htakes with
  | refused f hnone hrefused =>
    rw [hfault] at hrefused
    cases hrefused
  | granted =>
    have htaken := takeRows_keepPicked hrows 0 w []
    rw [List.append_nil] at htaken
    obtain ⟨w', hw', ⟨-, hfinish⟩ | ⟨f, hfails, -⟩⟩ :=
      finish_cases (s := (⟨w, found.reverse⟩ : Scene (List α))) hw a
    · have hquery : Execute.query session db sql bindings (fun _ _ values => keepPicked pick values)
          ⟨s.world, []⟩ = (.ok (), ⟨w', found.reverse⟩) := by
        rw [Execute.query, Act.bind_ok hsubmit, Act.bind_ok htaken]
        exact hfinish
      refine ⟨w', asides, ?_, hw', hasides⟩
      rw [gather_apply, Act.within, Act.bind_ok hquery]
      simp [Act.bind_apply, Act.own, Act.pure_apply]
    · rw [hfault] at hfails
      cases hfails

/-- However it ends, the one text is given to the engine. -/
theorem Records.given_gather (h : Records session w₀ texts pieces s.world) (db : Connection)
    (sql : String) (bindings : List Value) (pick : List Value → Except RowFault α) :
    (Execute.gather session db sql bindings pick s).2.world.given = w₀.given ++ (texts ++ [sql]) := by
  have hkeep (values : List Value) : (keepPicked pick values).Discreet := by
    unfold keepPicked
    cases pick values with
    | ok a => exact .bind (.modifyOwn _) fun _ => .pure false
    | error f => exact .fail _
  have htake (rows : List (List Value)) (index : Nat) :
      (Execute.takeRows (fun _ => keepPicked pick) index rows).Discreet := by
    induction rows generalizing index with
    | nil => exact .pure true
    | cons values rows ih =>
      refine .bind (hkeep values) fun stop => ?_
      cases stop
      · exact ih (index + 1)
      · exact .pure false
  have hcount (c : Engine.Counters) : (Execute.count c : Act (List α) Unit).Discreet :=
    .modifyWorld fun w => by simp [World.stance, World.given]
  have hend (a : Answer) (all : Bool) :
      (if all then finish a else Execute.abandon a : Act (List α) Unit).Discreet := by
    cases all
    · exact .bind (.note rfl) fun _ => hcount _
    · exact .bind (hcount _) fun _ => .raise _
  obtain ⟨r, w, asides, hsubmit, -, hw, -⟩ :=
    Records.exists_submit (s := (⟨s.world, []⟩ : Scene (List α))) h db sql bindings
  have hstance := calc (Execute.gather session db sql bindings pick s).2.world.stance
    _ = (Execute.query session db sql bindings (fun _ _ values => keepPicked pick values)
        ⟨s.world, []⟩).2.world.stance :=
      Act.Discreet.stance_bind (fun _ => .bind .own fun _ => .pure _) _ _
    _ = w.stance := by
      rw [Execute.query, Act.Discreet.stance_bind (fun a => .bind (htake (a.rows.getD []) 0) (hend a)),
        hsubmit]
  exact (congrArg Prod.fst hstance).trans hw.given

end Gather

theorem mapM_text {β : Type} {f : Value → Except RowFault β} {g : String → β}
    (hf : ∀ t, f (.text t) = .ok (g t)) (texts : List String) :
    (texts.map Value.text).mapM f = .ok (texts.map g) := by
  induction texts with
  | nil => rfl
  | cons text texts ih => rw [List.map_cons, List.mapM_cons, hf, ih]; rfl

theorem mapM_textOf (texts : List String) : (texts.map Value.text).mapM Execute.textOf = .ok texts := by
  simpa using mapM_text (f := Execute.textOf) (g := id) (fun _ => rfl) texts

end Records
end SqlConsole.Dump

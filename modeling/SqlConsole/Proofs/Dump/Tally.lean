import SqlConsole.Proofs.Dump.Trail
import SqlConsole.Proofs.Execute.Rows

/-! The tally of a dump agrees with what was written and with what the engine answered. -/
namespace SqlConsole.Dump
open Act
open Engine (Answer)
open Execute (submit query finish)
open Sql (Value)

/-- How many errors the answer to a text makes, apart from those that become comments. -/
def due (a : Answer) : Nat := if isColumnless a then 1 else 0

/-- Up to here the engine has given the known answers, among others, and as many errors were met as
there are comments on errors and tables without columns. The pieces have some shape. -/
def Trail (session : Session) (w₀ : World) (known : List Answer) (errors : Nat)
    (shape : List Piece → Prop) (w : World) : Prop :=
  ∃ texts pieces, Records session w₀ texts pieces w ∧ releaseText ∉ texts ∧
    known ⊆ w₀.script.replies texts ∧
    errors = pieces.countP (·.isError) + (w₀.script.replies texts).countP isColumnless ∧
    shape pieces

/-- The tally that belongs to a scene is right, but for `due` errors that it still has to count. -/
def Sound {σ : Type} (session : Session) (w₀ : World) (view : σ → Tally) (known : List Answer)
    (due : Nat) (s : Scene σ) : Prop :=
  Trail session w₀ known ((view s.own).errors + due) (Orderly (view s.own).catalogWritable) s.world

/-- The dump broke off with a failure that comes from an answer of the engine. -/
def Broken {σ : Type} (session : Session) (w₀ : World) (view : σ → Tally) (known : List Answer)
    (e : Failure) (s : Scene σ) : Prop :=
  ∃ a, Sound session w₀ view (a :: known) 0 s ∧ Blames a e

variable {session : Session} {w₀ : World} {known known' : List Answer} {n : Nat}
  {shape shape' : List Piece → Prop} {σ : Type} {s : Scene σ} {view : σ → Tally}

theorem Trail.mono (h : Trail session w₀ known n shape s.world) (hsub : known' ⊆ known) :
    Trail session w₀ known' n shape s.world := by
  obtain ⟨texts, pieces, hrecords, hrelease, hknown, hcount, hshape⟩ := h
  exact ⟨texts, pieces, hrecords, hrelease, fun a ha => hknown (hsub ha), hcount, hshape⟩

/-- A piece is written, which may give the pieces another shape. -/
theorem put_trail {p : Piece} (hp : p.Stems session known)
    (hshape : ∀ pieces, shape pieces → shape' (pieces ++ [p])) (t : Tally)
    {E : Failure → Scene Tally → Prop} :
    Ensures (fun s => s.own = t ∧ Trail session w₀ known n shape s.world) (put session p.text)
      (fun _ s => s.own = t ∧
        Trail session w₀ known (n + if p.isError then 1 else 0) shape' s.world) E := by
  rintro s ⟨rfl, texts, pieces, hrecords, hrelease, hknown, hcount, hpieces⟩
  obtain ⟨w, hwrite, hw⟩ :=
    hrecords.exists_write hrecords.ready.output (p := p) fun _ => hp.mono hknown
  rw [if_pos rfl] at hw
  rw [put, hwrite]
  refine ⟨rfl, texts, pieces ++ [p], hw, hrelease, hknown, ?_, hshape pieces hpieces⟩
  rw [hcount, List.countP_append, List.countP_singleton]
  omega

theorem Trail.exists_submit (h : Trail session w₀ known n shape s.world) {sql : String}
    (hsql : sql ≠ releaseText)
    (hshape : ∀ pieces asides, shape pieces → (∀ p ∈ asides, p.isAside) → shape (pieces ++ asides))
    (db : Connection) (bindings : List Value) :
    ∃ r w a, submit session db sql bindings s = (r, ⟨w, s.own⟩) ∧ Takes a r ∧ a.sql = sql ∧
      Trail session w₀ (a :: known) (n + due a) shape w := by
  obtain ⟨texts, pieces, hrecords, hrelease, hknown, hcount, hpieces⟩ := h
  obtain ⟨r, w, asides, hsubmit, htakes, hw, hasides⟩ := hrecords.exists_submit db sql bindings
  have hreplies := Engine.Script.replies_concat w₀.script texts sql
  rw [← hrecords.script] at hreplies
  refine ⟨r, w, (s.world.script.answer sql).1, hsubmit, htakes,
    Engine.Script.sql_answer s.world.script sql, texts ++ [sql], pieces ++ asides, hw, ?_, ?_, ?_,
    hshape pieces asides hpieces hasides⟩
  · simpa using ⟨hrelease, hsql.symm⟩
  · rw [hreplies]
    refine List.cons_subset.2 ⟨List.mem_append_right _ (List.mem_singleton_self _), ?_⟩
    exact fun a ha => List.mem_append_left _ (hknown ha)
  · rw [hcount, hreplies, List.countP_append, List.countP_append, List.countP_singleton,
      Piece.countP_asides hasides, due]
    omega

theorem Orderly.append_asides {writable : Bool} {pieces asides : List Piece}
    (h : Orderly writable pieces) (hasides : ∀ p ∈ asides, p.isAside) :
    Orderly writable (pieces ++ asides) := by
  induction asides generalizing pieces with
  | nil => simpa using h
  | cons p asides ih =>
    have hp := Piece.isCatalog_of_isAside (hasides p List.mem_cons_self)
    simpa using ih (h.concat hp) fun q hq => hasides q (List.mem_cons_of_mem p hq)

theorem Sound.mono {d : Nat} (h : Sound session w₀ view known d s) (hsub : known' ⊆ known) :
    Sound session w₀ view known' d s := Trail.mono h hsub

/-- An action with a state of its own leaves the tally `o` alone. -/
theorem sound_within {o : Tally} {d : Nat} :
    Sound session w₀ id known d ⟨s.world, o⟩ ↔ Sound session w₀ (fun _ => o) known d s := Iff.rfl

theorem Broken.mono {e : Failure} (h : Broken session w₀ view known e s) (hsub : known' ⊆ known) :
    Broken session w₀ view known' e s := by
  obtain ⟨a, hs, hblames⟩ := h
  exact ⟨a, hs.mono (List.cons_subset_cons a hsub), hblames⟩

theorem due_of_fault {a : Answer} {f : Engine.Fault} (h : a.fault = some f) : due a = 0 := by
  simp [due, isColumnless, h]

theorem due_of_row {a : Answer} {values : List Value} (h : values ∈ a.rows.getD []) :
    due a = 0 := by
  have hempty : (a.rows.getD []).isEmpty = false := by
    simpa using List.ne_nil_of_mem h
  simp [due, isColumnless, hempty]

theorem due_of_plain {a : Answer} (h : asksColumns a.sql = false) : due a = 0 := by
  simp [due, isColumnless, h]

theorem Blames.ofFault {a : Answer} {f : Engine.Fault} (h : a.fault = some f) :
    Blames a (.ofFault f) := by
  cases f with
  | error e => exact .engine h
  | interrupted => exact .interrupted h

/-- A piece that has nothing to do with the catalog is written. -/
theorem put_sound {p : Piece} (hp : p.Stems session known) (hcatalog : p.isCatalog = false)
    {E : Failure → Scene Tally → Prop} :
    Ensures (Sound session w₀ id known 0) (put session p.text)
      (fun _ => Sound session w₀ id known (if p.isError then 1 else 0)) E := by
  intro s hs
  refine (put_trail hp (fun _ h => h.concat hcatalog) s.own s ⟨rfl, hs⟩).mono ?_ fun _ _ h => h
  rintro _ s' ⟨hown, hs'⟩
  rw [Sound, hown]
  exact hs'

theorem countError_sound {E : Failure → Scene Tally → Prop} :
    Ensures (Sound session w₀ id known 1) countError (fun _ => Sound session w₀ id known 0) E :=
  .modifyOwn fun _ hs => hs

theorem submit_sound {sql : String} (hsql : sql ≠ releaseText) (db : Connection)
    (bindings : List Value) (o : σ) :
    Ensures (fun s => s.own = o ∧ Sound session w₀ view known 0 s) (submit session db sql bindings)
      (fun a s => s.own = o ∧ a.sql = sql ∧ Sound session w₀ view (a :: known) (due a) s)
      (Broken session w₀ view known) := by
  rintro s ⟨rfl, hs⟩
  obtain ⟨r, w, a, hsubmit, htakes, hasql, hw⟩ := Trail.exists_submit hs hsql
    (fun _ _ h hasides => h.append_asides hasides) db bindings
  rw [hsubmit]
  cases htakes with
  | granted => exact ⟨rfl, hasql, hw⟩
  | refused f hrows hfault =>
    rw [due_of_fault hfault] at hw
    exact ⟨a, hw, .ofFault hfault⟩

theorem finish_sound (a : Answer) (o : σ) :
    Ensures (fun s => s.own = o ∧ Sound session w₀ view (a :: known) (due a) s) (finish a)
      (fun _ s => s.own = o ∧ a.fault = none ∧ Sound session w₀ view (a :: known) (due a) s)
      (Broken session w₀ view known) := by
  rintro s ⟨rfl, texts, pieces, hrecords, hrest⟩
  obtain ⟨w, hw, ⟨hfault, hfinish⟩ | ⟨f, hfault, hfinish⟩⟩ := finish_cases hrecords a
  · rw [hfinish]
    exact ⟨rfl, hfault, texts, pieces, hw, hrest⟩
  · rw [hfinish]
    refine ⟨a, ?_, .ofFault hfault⟩
    rw [due_of_fault hfault] at hrest
    exact ⟨texts, pieces, hw, hrest⟩

/-- The text is a query. -/
def Selects (sql : String) : Prop := "SELECT".toList <+: sql.toList

instance (sql : String) : Decidable (Selects sql) :=
  inferInstanceAs (Decidable ("SELECT".toList <+: sql.toList))

theorem Selects.ne_releaseText {sql : String} (h : Selects sql) : sql ≠ releaseText := by
  rintro rfl
  exact absurd h (by decide)

theorem Selects.asksColumns {sql : String} (h : Selects sql) : asksColumns sql = false := by
  obtain ⟨r, hr⟩ := h
  rw [Dump.asksColumns, ← hr]
  rfl

/-- A query whose rows keep the tally right keeps it right. -/
theorem query_sound {sql : String} (hsql : Selects sql) {db : Connection} {bindings : List Value}
    {each : List String → Nat → List Value → Act σ Bool}
    (heach : ∀ a, a.sql = sql → ∀ index, ∀ values ∈ a.rows.getD [],
      Ensures (Sound session w₀ view (a :: known) 0) (each a.columns index values)
        (fun stop s => stop = false ∧ Sound session w₀ view (a :: known) 0 s)
        (Broken session w₀ view (a :: known))) :
    Ensures (Sound session w₀ view known 0) (query session db sql bindings each)
      (fun _ => Sound session w₀ view known 0) (Broken session w₀ view known) := by
  have hsubset (a : Answer) : known ⊆ a :: known := List.subset_cons_self a known
  have hdue {a : Answer} (ha : a.sql = sql) : due a = 0 := due_of_plain (ha ▸ hsql.asksColumns)
  refine Execute.query_ensures
    (J := fun a _ s => a.sql = sql ∧ Sound session w₀ view (a :: known) 0 s) ?_ ?_ ?_
  · intro s hs
    refine (submit_sound hsql.ne_releaseText db bindings s.own s ⟨rfl, hs⟩).mono ?_ fun _ _ h => h
    rintro a s' ⟨-, ha, hs'⟩
    rw [hdue ha] at hs'
    exact ⟨ha, hs'⟩
  · rintro a index values hvalues s ⟨ha, hs⟩
    refine (heach a ha index values hvalues s hs).mono ?_ fun e s' h => h.mono (hsubset a)
    rintro stop s' ⟨rfl, hs'⟩
    exact ⟨rfl, ha, hs'⟩
  · rintro a s ⟨ha, hs⟩
    rw [← hdue ha] at hs
    refine (finish_sound a s.own s ⟨rfl, hs⟩).mono ?_ fun _ _ h => h
    rintro _ s' ⟨-, -, hs'⟩
    rw [hdue ha] at hs'
    exact hs'.mono (hsubset a)

end SqlConsole.Dump

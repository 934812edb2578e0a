import SqlConsole.Proofs.Console.Request

/-! What is open is closed with the console: all of it, or what comes before a sink that refuses what it
holds. -/
namespace SqlConsole

/-- The past makes sense. -/
structure Origin.Orders (o : Origin) (w : World) : Prop where
  /-- A sink was opened first, and was written to until it was closed, which happened once at most. -/
  sinks : ∀ id name, w.concerning (.opened id name) = [] ∨ ∃ (texts : List String) (isShut : Bool),
    w.concerning (.opened id name) = .opened (.opened id name) :: (texts.map (.wrote (.opened id name)) ++
      if isShut then [.closed (.opened id name)] else [])
  /-- The streams that were there from the start are never closed. -/
  streams : ∀ k, k.isStream → .closed k ∉ w.past
  /-- The calls of the engine come in an order that makes sense. -/
  links : ∃ l, o.links.follow o.script w.events = some l

/-- Nothing is open, after a past that makes sense. -/
structure Origin.Releases (o : Origin) (w : World) : Prop where
  /-- A sink that was opened was written to until it was closed, which happened once. -/
  sinks : ∀ id name, w.concerning (.opened id name) = [] ∨ ∃ texts : List String,
    w.concerning (.opened id name) =
      .opened (.opened id name) :: (texts.map (.wrote (.opened id name)) ++ [.closed (.opened id name)])
  /-- The streams that were there from the start are never closed. -/
  streams : ∀ k, k.isStream → .closed k ∉ w.past
  /-- The calls of the engine come in an order that makes sense, and leave no connection open. -/
  links : ∃ l, o.links.follow o.script w.events = some l ∧ l.main = none ∧ l.other = none ∧
    l.copying = false

variable {o : Origin}

namespace Origin.Accounts
variable {held : List Sink} {links : Links} {w : World}

theorem orders (h : o.Accounts held links w) : o.Orders w := by
  obtain ⟨sinks, _, _, -, hledger⟩ := h.ledger
  refine ⟨fun id name => ?_, fun k hk hclosed => ?_, _, Origin.follow_events hledger⟩
  · have htale := Origin.tale hledger (.opened id name)
    generalize w.concerning (.opened id name) = deeds at htale ⊢
    cases htale with
    | stream texts hstream => cases hstream
    | unopened => exact .inl rfl
    | opened texts hopen => exact .inr ⟨texts, false, by simp⟩
    | closed texts => exact .inr ⟨texts, true, rfl⟩
  · have hmem : .closed k ∈ w.concerning k :=
      List.mem_reverse.2 (List.mem_filter.2 ⟨hclosed, decide_eq_true rfl⟩)
    have htale := Origin.tale hledger k
    generalize w.concerning k = deeds at htale hmem
    cases htale with
    | stream texts => simp at hmem
    | unopened => cases hmem
    | opened texts => simp at hmem
    | closed texts _ hid =>
      obtain ⟨id, -, hid⟩ := hid
      simp [Sink.isStream, hid] at hk

theorem releases_of_sound (h : o.Accounts [] links w) (hmain : links.main = none)
    (hother : links.other = none)
    (hcopying : links.copying = false) (hsound : ∀ k : Sink, ¬ k.MayRefuse o.taking) : o.Releases w := by
  obtain ⟨sinks, _, _, hbalances, hledger⟩ := h.ledger
  obtain rfl := (hbalances.perm_of_sound hsound).eq_nil
  refine ⟨fun id name => ?_, h.orders.streams, _, Origin.follow_events hledger, hmain, hother, hcopying⟩
  have htale := Origin.tale hledger (.opened id name)
  generalize w.concerning (.opened id name) = deeds at htale ⊢
  cases htale with
  | stream texts hstream => cases hstream
  | unopened => exact .inl rfl
  | opened texts hopen => cases hopen
  | closed texts => exact .inr ⟨texts, rfl⟩

end Origin.Accounts

/-- These sinks were closed in this order, as far as they were open, and nothing else was done. -/
structure World.Shuts (sinks : List Sink) (w w' : World) : Prop where
  past : ∃ shut, List.Sublist shut sinks ∧ w'.past = (shut.map .closed).reverse ++ w.past
  shut : ∀ k ∈ sinks, k.isStream ∨ ¬ w'.IsOpen k
  left : ∀ k, w'.IsOpen k → w.IsOpen k
  others : ∀ k, (∀ k' ∈ sinks, k'.id? ≠ k.id?) → w.IsOpen k → w'.IsOpen k

namespace World.Shuts
variable {sinks sinks' : List Sink} {w w' w'' : World}

theorem of_handles (hhandles : w'.handles = w.handles) (hpast : w'.past = w.past) : Shuts [] w w' := by
  have hopen (k : Sink) : w'.IsOpen k ↔ w.IsOpen k := by
    cases k with
    | opened id name => rw [IsOpen, IsOpen, target?, target?, handle?, handle?, hhandles]
    | _ => exact .rfl
  exact ⟨⟨[], .slnil, hpast⟩, by simp, fun k => (hopen k).1, fun k _ => (hopen k).2⟩

theorem trans (h : Shuts sinks w w') (h' : Shuts sinks' w' w'') : Shuts (sinks ++ sinks') w w'' where
  past := by
    obtain ⟨shut, hsub, hpast⟩ := h.past
    obtain ⟨shut', hsub', hpast'⟩ := h'.past
    exact ⟨shut ++ shut', hsub.append hsub', by rw [hpast', hpast]; simp⟩
  shut k hk := by
    rcases List.mem_append.1 hk with hk | hk
    · exact (h.shut k hk).imp_right fun hshut hopen => hshut (h'.left k hopen)
    · exact h'.shut k hk
  left k hk := h.left k (h'.left k hk)
  others k hk hopen := h'.others k (fun k' hk' => hk k' (List.mem_append_right _ hk'))
    (h.others k (fun k' hk' => hk k' (List.mem_append_left _ hk')) hopen)

end World.Shuts

namespace Console
open Act (Ensures)
open Origin (Keeping)

variable {session : Session} {s₀ s : Scene Console} {l l' : List Sink} {x y : Act Console Unit}

/-! What is closed, and in which order. -/

/-- The action closes the sinks in this order, up to one that refuses what it holds. The database stays. -/
def ShutsUpTo (l : List Sink) (s : Scene Console) (x : Act Console Unit) : Prop :=
  ∃ r t, x s = (r, t) ∧ t.own.db = s.own.db ∧ t.world.taking = s.world.taking ∧
    (r = .ok () ∧ World.Shuts l s.world t.world ∨
      ∃ done k rest, l = done ++ k :: rest ∧ r = .error (.sink k .refused) ∧ s.world.Refuses k ∧
        World.Shuts (done ++ [k]) s.world t.world)

theorem ShutsUpTo.nothing {t : Scene Console} (hx : x s = (.ok (), t)) (hdb : t.own.db = s.own.db)
    (htaking : t.world.taking = s.world.taking) (hhandles : t.world.handles = s.world.handles)
    (hpast : t.world.past = s.world.past) : ShutsUpTo [] s x :=
  ⟨_, t, hx, hdb, htaking, .inl ⟨rfl, .of_handles hhandles hpast⟩⟩

theorem ShutsUpTo.bind (hx : ShutsUpTo l s x) (hy : ∀ t, ShutsUpTo l' t y) :
    ShutsUpTo (l ++ l') s (x >>= fun _ => y) := by
  obtain ⟨r, t, hx, hdb, htaking, ⟨rfl, hshuts⟩ | ⟨done, k, rest, rfl, rfl, hk, hshuts⟩⟩ := hx
  · obtain ⟨r', t', hy, hdb', htaking', hends⟩ := hy t
    refine ⟨r', t', (Act.bind_ok hx _).trans hy, hdb'.trans hdb, htaking'.trans htaking, ?_⟩
    rcases hends with ⟨rfl, hshuts'⟩ | ⟨done, k, rest, rfl, rfl, hk, hshuts'⟩
    · exact .inl ⟨rfl, hshuts.trans hshuts'⟩
    · refine .inr ⟨l ++ done, k, rest, (List.append_assoc ..).symm, rfl, ?_, ?_⟩
      · exact (World.refuses_congr htaking k).1 hk
      · rw [List.append_assoc]
        exact hshuts.trans hshuts'
  · exact ⟨_, t, Act.bind_error hx _, hdb, htaking,
      .inr ⟨done, k, rest ++ l', by simp, rfl, hk, hshuts⟩⟩

theorem shutsUpTo_close (k : Sink) (s : Scene Console) : ShutsUpTo [k] s (Act.close k) := by
  by_cases hopen : s.world.IsOpen k
  · cases k with
    | opened id name =>
      obtain ⟨r, w, hclose, hr, -, htaking, -, hpast, hnone, hothers, -⟩ := Act.close_of_isOpen hopen
      have hshuts : World.Shuts [.opened id name] s.world w := by
        refine ⟨⟨[.opened id name], .refl _, hpast⟩, ?_, fun k' hk' => ?_, fun k' hk' hopen' => ?_⟩
        · rintro _ (_ | ⟨_, ⟨⟩⟩)
          exact .inr (by simp [World.IsOpen, hnone])
        · cases k' with
          | opened id' name' =>
            by_cases hid : id' = id
            · simp [World.IsOpen, hid, hnone] at hk'
            · rwa [World.IsOpen, ← hothers id' hid]
          | _ => trivial
        · cases k' with
          | opened id' name' =>
            have hid : id' ≠ id := fun hid => hk' _ (List.mem_singleton_self _) (congrArg some hid.symm)
            rwa [World.IsOpen, hothers id' hid]
          | _ => trivial
      refine ⟨r, ⟨w, s.own⟩, hclose, rfl, htaking, ?_⟩
      rcases hr with rfl | ⟨rfl, hrefuses⟩
      · exact .inl ⟨rfl, hshuts⟩
      · exact .inr ⟨[], _, [], rfl, rfl, hrefuses, hshuts⟩
    | _ =>
      refine ⟨_, s, rfl, rfl, rfl, .inl ⟨rfl, ⟨[], List.nil_sublist _, rfl⟩, ?_,
        fun _ h => h, fun _ _ h => h⟩⟩
      rintro _ (_ | ⟨_, ⟨⟩⟩)
      exact .inl rfl
  · refine ⟨_, s, Act.close_of_not_isOpen hopen, rfl, rfl,
      .inl ⟨rfl, ⟨[], List.nil_sublist _, rfl⟩, ?_, fun _ h => h, fun _ _ h => h⟩⟩
    rintro _ (_ | ⟨_, ⟨⟩⟩)
    exact .inr hopen

theorem shutsUpTo_closeOld (k? : Option Sink) (s : Scene Console) :
    ShutsUpTo k?.toList s (k?.forM Act.close) := by
  cases k? with
  | none => exact .nothing rfl rfl rfl rfl rfl
  | some k => exact shutsUpTo_close k s

/-- The sinks of a session in the order in which they are closed with the console. -/
def closingOrder (session : Session) : List Sink :=
  session.trace.toList ++ (session.log.toList ++ [session.output])

/-- How it ends to close the console, and where that leads. Where a sink refuses what it holds, those that
come after it and the database are left open. -/
inductive Closing (s : Scene Console) : Except Failure Unit → Scene Console → Prop where
  | whole {w : World} {t : Scene Console} (hsinks : World.Shuts (closingOrder s.own.session) s.world w)
      (hpast : t.world.past = s.own.db.toList.map (fun db => .engine (.close db.filename)) ++ w.past)
      (hhandles : t.world.handles = w.handles) (hdb : t.own.db = none) : Closing s (.ok ()) t
  | upTo {done rest : List Sink} {k : Sink} {t : Scene Console}
      (horder : closingOrder s.own.session = done ++ k :: rest) (hk : s.world.Refuses k)
      (hsinks : World.Shuts (done ++ [k]) s.world t.world) (hdb : t.own.db = s.own.db) :
      Closing s (.error (.sink k .refused)) t

theorem shutsUpTo_closeSession (s : Scene Console) :
    ShutsUpTo (closingOrder s.own.session) s closeSession := by
  have hkept {f : Session → Session} (t : Scene Console) : ShutsUpTo [] t (modifySession f) :=
    .nothing rfl rfl rfl rfl rfl
  have hall := (shutsUpTo_closeOld s.own.session.trace s).bind fun t =>
    (hkept (f := fun s => { s with trace := none }) t).bind fun t =>
      (shutsUpTo_closeOld s.own.session.log t).bind fun t =>
        (hkept (f := fun s => { s with log := none }) t).bind fun t =>
          (shutsUpTo_close s.own.session.output t).bind
            (hkept (f := fun s => { s with settings := { s.settings with table := none } }))
  exact hall

/-- Closes the database, if it is open. -/
private def leave (db? : Option Connection) : Act Console Unit :=
  match db? with
  | some db => do
    Act.event (.close db.filename)
    Act.modifyOwn fun c => { c with db := none }
  | none => pure ()

private theorem closeAll_eq (s : Scene Console) : ∃ w : World, w.handles = s.world.handles ∧
    w.past = s.world.past ∧ w.taking = s.world.taking ∧
    closeAll s = (closeSession >>= fun _ => leave s.own.db) ⟨w, s.own⟩ := by
  rw [closeAll, Act.bind_ok (show Act.own s = (.ok s.own, s) from rfl)]
  cases s.own.session.log with
  | none => exact ⟨s.world, rfl, rfl, rfl, rfl⟩
  | some k => exact ⟨{ s.world with logging := false }, rfl, rfl, rfl, rfl⟩

theorem closeAll_closing (s : Scene Console) : Closing s (closeAll s).1 (closeAll s).2 := by
  obtain ⟨w, hhandles, hpast, htaking, heq⟩ := closeAll_eq s
  have hquiet : World.Shuts [] s.world w := .of_handles hhandles hpast
  rw [heq]
  obtain ⟨r, t, hclose, hdb, -, ⟨rfl, hshuts⟩ | ⟨done, k, rest, horder, rfl, hk, hshuts⟩⟩ :=
    shutsUpTo_closeSession ⟨w, s.own⟩
  · rw [Act.bind_ok hclose]
    have hwhole {t' : Scene Console} := Closing.whole (s := s) (t := t') (hquiet.trans hshuts)
    cases hlink : s.own.db with
    | none => exact hwhole (by rw [hlink]; rfl) rfl (hdb.trans hlink)
    | some db => exact hwhole (by rw [hlink]; rfl) rfl rfl
  · rw [Act.bind_error hclose]
    exact .upTo horder ((World.refuses_congr htaking k).1 hk) (hquiet.trans hshuts) hdb

/-! Closing leaves a past that makes sense. -/

/-- The sinks could not all be closed, after a past that makes sense. -/
def LeavesOpen (o : Origin) (f : Failure) (s : Scene Console) : Prop :=
  (∃ held links, o.Accounts held links s.world) ∧ o.IsRefusal f

private theorem ensures_closeSession {links : Links} {db : Option Connection} :
    Ensures (o.At session.held links (Keeping session db)) closeSession
      (fun _ s => o.Accounts [] links s.world) (LeavesOpen o) := by
  refine Origin.ensures_own fun c hsession _ => ?_
  rw [hsession]
  let O : Console → Prop := fun _ => True
  let held := Sink.heldOf session.trace ++ (Sink.heldOf session.log ++ (session.output.held ++ []))
  -- the sinks are closed in another order than the session names them in
  have hperm : session.held.Perm held := by
    refine List.perm_iff_count.2 fun k => ?_
    simp only [Session.held, held, List.count_append, List.count_nil]
    omega
  have hkept {held : List Sink} {f : Session → Session} :
      Ensures (o.At held links O) (modifySession f) (fun _ => o.At held links O) (LeavesOpen o) :=
    fun _ hs => ⟨trivial, hs.2⟩
  have hclosed (held : List Sink) (k? : Option Sink) :
      Ensures (o.At (Sink.heldOf k? ++ held) links O) (k?.forM Act.close) (fun _ => o.At held links O)
        (LeavesOpen o) :=
    (ensures_closeOld held k?).onError fun _ _ hs => ⟨⟨_, links, hs.1.2⟩, hs.2⟩
  have houtput : Ensures (o.At (session.output.held ++ []) links O) (Act.close session.output)
      (fun _ => o.At [] links O) (LeavesOpen o) :=
    (Origin.ensures_close session.output).onError fun _ _ hs => ⟨⟨_, links, hs.1.2⟩, hs.2.2⟩
  refine Ensures.pre (.bind (hclosed _ session.trace) fun _ => .bind hkept fun _ =>
    .bind (hclosed _ session.log) fun _ => .bind hkept fun _ => .bind houtput fun _ => ?_)
      fun s hs => ⟨trivial, hs.2.perm hperm⟩
  exact hkept.post fun _ _ hs => hs.2

/-- Where all is closed nothing of the console's is left open, but for sinks that it does not keep any more.
-/
theorem ensures_closeAll : Ensures (o.Rests session) closeAll
    (fun _ s => ∃ links, o.Accounts [] links s.world ∧ links.main = none ∧ links.other = none ∧
      links.copying = false) (LeavesOpen o) := by
  refine Origin.ensures_resting fun db copies => Origin.ensures_own fun c hsession hdb => ?_
  rw [hsession, hdb]
  let links : Links := .of db none copies
  have hlogging : Ensures (o.At session.held links (Keeping session db))
      (Act.modifyWorld fun w => { w with logging := false })
      (fun _ => o.At session.held links (Keeping session db)) (LeavesOpen o) :=
    fun s hs => ⟨hs.1, hs.2.same rfl rfl rfl rfl⟩
  refine .whether hlogging (.bind ensures_closeSession fun _ => ?_)
  cases db with
  | none => exact .pure fun s hs => ⟨links, hs, rfl, rfl, rfl⟩
  | some db =>
    intro s hs
    have hevent : links.after o.script (.close db.filename) = some { links with main := none } := by
      simp [Links.after, links, Links.of]
    exact ⟨_, hs.event hevent rfl, rfl, rfl, rfl⟩

theorem closeAll_orders (hs : o.Stands s) : o.Orders (closeAll s).2.world := by
  refine ensures_closeAll.leads (R := fun t => o.Orders t.world) hs ?_ ?_
  · rintro _ t ⟨links, h, -⟩
    exact h.orders
  · rintro _ t ⟨⟨held, links, h⟩, -⟩
    exact h.orders

theorem closeAll_releases (hs : o.Stands s) (hsound : ∀ k : Sink, ¬ k.MayRefuse o.taking) :
    ∃ t, closeAll s = (.ok (), t) ∧ o.Releases t.world := by
  have hends := ensures_closeAll s hs
  rcases hclose : closeAll s with ⟨f | _, t⟩ <;> rw [hclose] at hends
  · obtain ⟨-, k, hk, -⟩ := hends
    exact absurd hk (hsound k)
  · obtain ⟨links, h, hmain, hother, hcopying⟩ := hends
    exact ⟨t, rfl, h.releases_of_sound hmain hother hcopying hsound⟩

/-! The program. -/

private theorem roaming_run (hs : o.Stands s₀) (arguments : List String) (input : List Char) :
    Roaming o (fun _ => True) s₀ (do
      let named ← processArguments arguments
      if named.texts.isEmpty then
        pure ((← mainLoop none true (inputOfText input)).code : Int)
      else pure (← Act.own).exitCode) := by
  refine .bind (roaming_processArguments hs (fun _ => trivial) arguments) fun named => ?_
  split
  · refine .bind (Roams.roaming hs fun _ ht => roams_mainLoop ht fun _ _ _ _ _ _ _ _ => trivial)
      fun outcome => .pure _
  · exact .own fun _ _ => .pure _

/-- Some failures are turned into an exit code. -/
private theorem roaming_caught {x : Act Console Int} (hx : Roaming o (fun _ => True) s₀ x) :
    Roaming o (fun _ => True) s₀ (do
      match ← Act.attempt x with
      | .ok code => pure code
      | .error (.complaint c) => do
        writeError (programName ++ ": Error: " ++ c.message ++ "\n")
        pure 1
      | .error .interrupted => pure 1
      | .error f => Act.fail f) := by
  refine .attempt hx (fun code => .pure code) fun f hf => ?_
  cases f with
  | complaint c => exact .bind (roaming_write rfl _) fun _ => .pure 1
  | interrupted => exact .pure 1
  | _ => exact .fail hf

/-- The program goes by moves until it closes the console. If that fails its failure stands. -/
theorem program_closing (hs : o.Stands s₀) (arguments : List String) (input : List Char) :
    ∃ s, Moves (fun _ => True) s₀ s ∧ (program arguments input s₀).2 = (closeAll s).2 ∧
      ∀ f, (program arguments input s₀).1 = .error f → o.Permits f ∨ (closeAll s).1 = .error f := by
  obtain ⟨hmoves, hpermits⟩ := (roaming_caught (roaming_run hs arguments input)).roams
  exact ⟨_, hmoves, Act.ensuring_snd .., fun f h => (Act.ensuring_error h).imp_left (hpermits f)⟩

/-- Wherever a run has come to, from where nothing had been done yet, the past makes sense, and it still
does when the console is closed then, and at the end of the program: a sink that was opened was written to
until it was closed, which happened once at most, the streams of others have not been closed, and a
connection was closed once at most, after any copy over it was finished, and not used after that. Closing
goes on up to the first sink that refuses what it holds. Where none refuses anything all that was opened is
closed, and there is no attempt to write to a sink that is closed. -/
theorem IsFresh.releases (h : IsFresh s₀) :
    (∀ s, Inputs (fun _ => True) s₀ s →
      (Origin.of s₀).Orders s.world ∧ Closing s (closeAll s).1 (closeAll s).2 ∧
        (Origin.of s₀).Orders (closeAll s).2.world ∧
        ∀ (r : Request) k fault, (r.perform s).1 = .error (.sink k fault) → s₀.world.Refuses k) ∧
    (∀ arguments input, (Origin.of s₀).Orders (program arguments input s₀).2.world ∧
      ∃ s, Moves (fun _ => True) s₀ s ∧ (program arguments input s₀).2 = (closeAll s).2 ∧
        Closing s (closeAll s).1 (closeAll s).2) ∧
    ((∀ k : Sink, ¬ s₀.world.Refuses k) →
      (∀ s, Inputs (fun _ => True) s₀ s →
        ∃ t, closeAll s = (.ok (), t) ∧ (Origin.of s₀).Releases t.world) ∧
      ∀ arguments input, (Origin.of s₀).Releases (program arguments input s₀).2.world ∧
        ∀ k fault, (program arguments input s₀).1 ≠ .error (.sink k fault)) := by
  have hstands {s : Scene Console} (hmoves : Moves (fun _ => True) s₀ s) := hmoves.stands h.stands
  refine ⟨fun s hinputs => ?_, fun arguments input => ?_,
    fun hsound => ⟨fun s hinputs => ?_, fun arguments input => ?_⟩⟩
  · have hs := hstands (hinputs.moves h.stands)
    exact ⟨hs.2.orders, closeAll_closing s, closeAll_orders hs, fun r k fault hr =>
      (r.roams hs (r.only_of_forall fun _ => trivial)).2 _ hr k fault rfl⟩
  · obtain ⟨s, hmoves, hscene, -⟩ := program_closing h.stands arguments input
    exact ⟨hscene ▸ closeAll_orders (hstands hmoves), s, hmoves, hscene, closeAll_closing s⟩
  · exact closeAll_releases (hstands (hinputs.moves h.stands)) hsound
  · obtain ⟨s, hmoves, hscene, hfails⟩ := program_closing h.stands arguments input
    obtain ⟨t, hclose, hreleases⟩ := closeAll_releases (hstands hmoves) hsound
    refine ⟨by rwa [hscene, hclose], fun k fault hf => ?_⟩
    rcases hfails _ hf with hpermits | hf
    · exact hsound k (hpermits k fault rfl)
    · rw [hclose] at hf
      cases hf

/-- Output goes to a file, and the console is closed. -/
theorem releases_output :
    let s := ((Request.command ".output f".toList).perform untouched).2
    IsFresh untouched ∧ Inputs (fun _ => True) untouched s ∧ (∀ k : Sink, ¬ untouched.world.Refuses k) ∧
      ∃ t, closeAll s = (.ok (), t) ∧ (Origin.of untouched).Releases t.world ∧
        t.world.concerning (.opened 0 "f") = [.opened (.opened 0 "f"), .closed (.opened 0 "f")] := by
  intro s
  have hinputs : Inputs (fun _ => True) untouched s :=
    .request .nothing (.command _) (follows_of_forall (fun _ => trivial) _ _)
  have hsound (k : Sink) : ¬ untouched.world.Refuses k := by
    cases k with
    | opened id name => simp [World.Refuses, Sink.MayRefuse, untouched]
    | _ => exact not_false
  obtain ⟨t, hclose, hreleases⟩ := (isFresh_untouched.releases.2.2 hsound).1 s hinputs
  have hpast : t.world.past = (closeAll s).2.world.past := by rw [hclose]
  refine ⟨isFresh_untouched, hinputs, hsound, t, hclose, hreleases, ?_⟩
  rw [World.concerning, hpast]
  rfl

/-- A console that nothing can be stored for, as on a disk that is full. -/
def cramped : Scene Console :=
  { untouched with world := { untouched.world with taking := fun _ _ => .atMost 0 } }

/-- The trace cannot be stored when it is closed, and the database stays open. -/
theorem closeAll_leaves_open :
    let s := ((Request.query "a;" none).perform ((Request.command ".trace f".toList).perform cramped).2).2
    let t := (closeAll s).2
    IsFresh cramped ∧ Inputs (fun _ => True) cramped s ∧
      (closeAll s).1 = .error (.sink (.opened 0 "f") .refused) ∧
      .openMain ":memory:" none ∈ t.world.events ∧ .close ":memory:" ∉ t.world.events ∧
      t.own.db = s.own.db := by
  intro s t
  have htraced : Inputs (fun _ => True) cramped ((Request.command ".trace f".toList).perform cramped).2 :=
    .request .nothing (.command _) (follows_of_forall (fun _ => trivial) _ _)
  refine ⟨⟨rfl, rfl, rfl, rfl, rfl⟩, .request htraced (.query _ _) trivial, ?_⟩
  decide +kernel

end Console
end SqlConsole

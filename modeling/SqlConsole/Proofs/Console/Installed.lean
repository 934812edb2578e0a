import SqlConsole.Proofs.Console.Custody

/-! Sinks that the session installs. The one that was there before is closed, so that the session keeps just
the sinks that are open. Where that one refuses what it held the new one is installed as output, but lost as a
log or trace. -/
namespace SqlConsole.Console
open Act (Ensures Safe)
open Origin (Keeping)

variable {o : Origin} {session : Session} {F : Failure → Prop}

theorem ensures_installOutput (hF : ∀ f, o.Expects f → F f) (k : Sink) :
    Ensures (o.RestsWith k.held none session) (installOutput k)
      (fun _ => o.Rests { session with output := k })
      (fun f s => o.Rests { session with output := k } s ∧ F f) := by
  rintro s ⟨rfl, hs⟩
  let own : Console := { s.own with session := { s.own.session with output := k } }
  show Act.Ends _ _ ((if s.own.session.output ≠ k then Act.close s.own.session.output else pure () :
    Act Console Unit) ⟨s.world, own⟩)
  split
  · have hold : o.At (s.own.session.output.held ++ own.session.held)
        (.of own.db none s.world.script.backups) (Keeping own.session own.db) ⟨s.world, own⟩ :=
      ⟨⟨rfl, rfl⟩, hs.perm (List.perm_append_comm_assoc ..)⟩
    exact (Origin.ensures_close _ _ hold).mono (fun _ _ h => h.rests)
      fun _ _ h => ⟨h.1.rests, hF _ h.2.2.expects⟩
  · rename_i hsame
    obtain rfl := not_not.1 hsame
    refine ⟨rfl, ?_⟩
    cases hstream : s.own.session.output.isStream with
    | true =>
      rw [Sink.held, if_pos hstream] at hs
      exact hs
    | false =>
      have hself : s.own.session.output.held = [s.own.session.output] := by simp [Sink.held, hstream]
      have hmem : s.own.session.output ∈ s.own.session.held := by simp [Session.held, hself]
      rw [hself] at hs
      exact hs.lose [s.own.session.output] (hs.mayRefuse_of_twice hmem)

theorem ensures_openNamed {name : String} {open_ : Act Console Sink}
    (hopen : ∀ db copies, Ensures (o.At session.held (.of db none copies) (Keeping session db)) open_
      (fun k => o.At (k.held ++ session.held) (.of db none copies) (Keeping session db))
      (fun f s => o.At session.held (.of db none copies) (Keeping session db) s ∧ f.IsNaming name)) :
    Ensures (o.Rests session) open_ (fun k => o.RestsWith k.held none session)
      (fun f s => o.Rests session s ∧ f.IsNaming name) :=
  Origin.ensures_resting fun db copies =>
    (hopen db copies).mono (fun _ hs => hs) (fun _ _ hs => hs.rests) fun _ _ hs => ⟨hs.1.rests, hs.2⟩

section Named
variable (hF : ∀ f, o.Expects f → F f) {name : String}
  (hname : '\x00' ∈ name.toList → F .zeroCharacter)
include hF hname

private theorem naming_allowed {f : Failure} (hf : f.IsNaming name) : F f := by
  rcases hf with rfl | ⟨rfl, hzero⟩
  · exact hF _ (Origin.expects_complaint _)
  · exact hname hzero

/-- Where the target cannot be opened standard output stays installed. -/
theorem ensures_setOutput :
    Ensures (o.Rests session) (setOutput name) (fun _ s => ∃ k, o.Rests { session with output := k } s)
      (fun f s => (∃ k, o.Rests { session with output := k } s) ∧ F f) := by
  let plain : Session := { session with output := .stdout }
  have hplain : Ensures (o.Rests session) (installOutput .stdout) (fun _ => o.Rests plain)
      (fun f s => (∃ k, o.Rests { session with output := k } s) ∧ F f) :=
    (ensures_installOutput hF .stdout).onError fun _ _ hs => ⟨⟨_, hs.1⟩, hs.2⟩
  have hinstall (k : Sink) : Ensures (o.RestsWith k.held none plain) (installOutput k)
      (fun _ s => ∃ k, o.Rests { session with output := k } s)
      (fun f s => (∃ k, o.Rests { session with output := k } s) ∧ F f) :=
    (ensures_installOutput hF k).mono (fun _ hs => hs) (fun _ _ hs => ⟨k, hs⟩)
      fun _ _ hs => ⟨⟨k, hs.1⟩, hs.2⟩
  have hopened {name' : String} {open_ : Act Console Sink}
      (hopen : Ensures (o.Rests plain) open_ (fun k => o.RestsWith k.held none plain)
        (fun f s => o.Rests plain s ∧ f.IsNaming name'))
      (hzero : '\x00' ∈ name'.toList → F .zeroCharacter) :
      Ensures (o.Rests plain) open_ (fun k => o.RestsWith k.held none plain)
        (fun f s => (∃ k, o.Rests { session with output := k } s) ∧ F f) :=
    hopen.onError fun _ _ hs => ⟨⟨.stdout, hs.1⟩, naming_allowed hF hzero hs.2⟩
  refine .bind hplain fun _ => ?_
  split
  · exact .pure fun _ hs => ⟨.stdout, hs⟩
  · split
    · rename_i command htarget
      refine .bind (hopened (ensures_openNamed fun _ _ => Origin.ensures_openCommand _) fun hzero => ?_)
        hinstall
      rw [String.toList_ofList] at hzero
      exact hname (htarget ▸ List.mem_cons_of_mem _ hzero)
    · exact .bind (hopened (ensures_openNamed fun _ _ => Origin.ensures_openFile _) hname) hinstall

end Named

theorem ensures_openSink? {name : String} :
    Ensures (o.Rests session) (openSink? name) (fun k? => o.RestsWith (Sink.heldOf k?) none session)
      (fun f s => o.Rests session s ∧ f.IsNaming name) := by
  unfold openSink?
  split
  · exact .pure fun _ hs => hs
  · split
    · exact .pure fun _ hs => hs
    · split
      · exact .pure fun _ hs => hs
      · refine .bind (ensures_openNamed fun _ _ => Origin.ensures_openFile _) fun k => .pure fun s hs => ?_
        rwa [Sink.heldOf, Option.toList_some, List.flatMap_singleton]

/-- The sink is closed, if there is one. Where it refuses what it held it stays. -/
theorem ensures_closeOld {links : Links} {O : Console → Prop} (held : List Sink) (k? : Option Sink) :
    Ensures (o.At (Sink.heldOf k? ++ held) links O) (k?.forM Act.close) (fun _ => o.At held links O)
      (fun f s => o.At (Sink.heldOf k? ++ held) links O s ∧ o.IsRefusal f) := by
  cases k? with
  | none => exact .pure fun _ hs => hs
  | some k =>
    have hheld : Sink.heldOf (some k) = k.held := by
      rw [Sink.heldOf, Option.toList_some, List.flatMap_singleton]
    rw [hheld]
    exact (Origin.ensures_close k).onError fun _ _ hs => hs.2

/-- The old sink of the session is closed before a new one takes its place. -/
private theorem ensures_replaced {old? k? : Option Sink} {db : Option Connection}
    {copies : List Engine.BackupAnswer} (after : Session)
    (hperm : (Sink.heldOf k? ++ session.held).Perm (Sink.heldOf old? ++ after.held)) :
    Ensures (o.At (Sink.heldOf k? ++ session.held) (.of db none copies) (Keeping session db))
      (old?.forM Act.close) (fun _ => o.At after.held (.of db none copies) (Keeping session db))
      (fun f s => o.Rests session s ∧ o.IsRefusal f) := by
  refine (ensures_closeOld after.held old?).mono (fun s hs => ⟨hs.1, hs.2.perm hperm⟩)
    (fun _ _ hs => hs) ?_
  rintro f s ⟨hs, k, hmay, rfl⟩
  have hkept : o.At session.held (.of db none copies) (Keeping session db) s :=
    ⟨hs.1, (hs.2.perm hperm.symm).lose _ hmay⟩
  exact ⟨hkept.rests, k, hmay, rfl⟩

private theorem ensures_installLog (k? : Option Sink) :
    Ensures (o.RestsWith (Sink.heldOf k?) none session)
      (do
        (← Act.own).session.log.forM Act.close
        modifySession fun s => { s with log := k? }
        Act.modifyWorld fun w => { w with logging := k?.isSome })
      (fun _ s => s.world.logging = k?.isSome ∧ o.Rests { session with log := k? } s)
      (fun f s => o.Rests session s ∧ o.IsRefusal f) := by
  refine Origin.ensures_resting fun db copies => Origin.ensures_own fun c hsession hdb => ?_
  rw [hsession]
  refine .bind (ensures_replaced { session with log := k? } ?_) fun _ => ?_
  · refine List.perm_iff_count.2 fun k => ?_
    simp only [Session.held, List.count_append]
    omega
  · rintro s ⟨⟨hsession, hdb⟩, hs⟩
    exact ⟨rfl, Origin.At.rests ⟨⟨congrArg (fun s : Session => { s with log := k? }) hsession, hdb⟩,
      hs.same rfl rfl rfl rfl⟩⟩

private theorem ensures_installTrace (hF : ∀ f, o.Expects f → F f) (k? : Option Sink) :
    Ensures (o.RestsWith (Sink.heldOf k?) none session)
      (do
        (← Act.own).session.trace.forM Act.close
        modifySession fun s => { s with trace := k? }
        let db ← connection
        Act.modifyOwn fun c => { c with db := some { db with traced := k?.isSome } })
      (fun _ => o.Rests { session with trace := k? })
      (fun f s => (o.Rests session s ∨ o.Rests { session with trace := k? } s) ∧ F f) := by
  refine Origin.ensures_resting fun db copies => Origin.ensures_own fun c hsession hdb => ?_
  rw [hsession]
  refine .bind ((ensures_replaced { session with trace := k? } ?_).onError
      fun _ _ hs => ⟨.inl hs.1, hF _ hs.2.expects⟩)
    fun _ => .bind (Q := fun _ => o.Rests { session with trace := k? }) ?_ fun _ =>
      .bind ((ensures_connection hF).onError fun _ _ hs => hs.imp_left .inr)
        fun db => Origin.ensures_connected fun copies => ?_
  · refine List.perm_iff_count.2 fun k => ?_
    simp only [Session.held, List.count_append]
    omega
  · rintro s ⟨⟨hsession, hdb⟩, hs⟩
    exact Origin.At.rests ⟨⟨congrArg (fun s : Session => { s with trace := k? }) hsession, hdb⟩, hs⟩
  · rintro s ⟨⟨hsession, hdb⟩, hs⟩
    let watched : Connection := { db with traced := k?.isSome }
    have hat : o.At _ (.of (some watched) none copies) (Keeping { session with trace := k? } (some watched))
      ⟨s.world, { s.own with db := some watched }⟩ := ⟨⟨hsession, rfl⟩, hs⟩
    exact hat.rests

section Named
variable (hF : ∀ f, o.Expects f → F f) {name : String}
  (hname : '\x00' ∈ name.toList → F .zeroCharacter)
include hF hname

/-- Where the named sink is installed, or none if it cannot be opened. -/
private theorem ensures_installing {install : Option Sink → Act Console Unit}
    {with_ : Option Sink → Session}
    (hinstall : ∀ k?, Ensures (o.RestsWith (Sink.heldOf k?) none session) (install k?)
      (fun _ => o.Rests (with_ k?)) (fun f s => (o.Rests session s ∨ o.Rests (with_ k?) s) ∧ F f)) :
    Ensures (o.Rests session)
      (do
        match ← Act.attempt (openSink? name) with
        | .ok k => install k
        | .error (.complaint c) => do
          install none
          Act.complain c
        | .error f => Act.fail f)
      (fun _ s => ∃ k?, o.Rests (with_ k?) s)
      (fun f s => (o.Rests session s ∨ ∃ k?, o.Rests (with_ k?) s) ∧ F f) := by
  refine .bind (.attempt (Q := fun opened s => match opened with
    | .ok k? => o.RestsWith (Sink.heldOf k?) none session s
    | .error f => o.Rests session s ∧ F f)
    (ensures_openSink?.onError fun _ _ hs => ⟨hs.1, naming_allowed hF hname hs.2⟩)) fun opened => ?_
  have hinstalls (k? : Option Sink) : Ensures (o.RestsWith (Sink.heldOf k?) none session) (install k?)
      (fun _ s => ∃ k?, o.Rests (with_ k?) s)
      (fun f s => (o.Rests session s ∨ ∃ k?, o.Rests (with_ k?) s) ∧ F f) :=
    (hinstall k?).mono (fun _ hs => hs) (fun _ _ hs => ⟨k?, hs⟩)
      fun _ _ hs => hs.imp_left (Or.imp_right fun hs => ⟨k?, hs⟩)
  rcases opened with f | k?
  · have hfails : Ensures (fun s => o.Rests session s ∧ F f) (Act.fail f : Act Console Unit)
        (fun _ s => ∃ k?, o.Rests (with_ k?) s)
        (fun f s => (o.Rests session s ∨ ∃ k?, o.Rests (with_ k?) s) ∧ F f) :=
      .fail fun _ hs => ⟨.inl hs.1, hs.2⟩
    cases f with
    | complaint c =>
      exact .bind ((hinstalls none).pre fun _ hs => hs.1) fun _ =>
        .fail fun _ hs => ⟨.inr hs, hF _ (Origin.expects_complaint _)⟩
    | _ => exact hfails
  · exact hinstalls k?

theorem ensures_setLog :
    Ensures (o.Rests session) (setLog name) (fun _ s => ∃ k?, o.Rests { session with log := k? } s)
      (fun f s => (o.Rests session s ∨ ∃ k?, o.Rests { session with log := k? } s) ∧ F f) :=
  ensures_installing hF hname fun k? => (ensures_installLog k?).mono (fun _ hs => hs) (fun _ _ hs => hs.2)
    fun _ _ hs => ⟨.inl hs.1, hF _ hs.2.expects⟩

theorem ensures_setTrace :
    Ensures (o.Rests session) (setTrace name) (fun _ s => ∃ k?, o.Rests { session with trace := k? } s)
      (fun f s => (o.Rests session s ∨ ∃ k?, o.Rests { session with trace := k? } s) ∧ F f) :=
  ensures_installing hF hname (ensures_installTrace hF)

end Named

/-- Where the user is told that the log cannot be opened there is none. -/
theorem ensures_setLog_told {name : String} :
    Ensures (o.Rests session) (setLog name) (fun _ _ => True)
      (fun f s => f.message?.isSome → s.own.session.log = none ∧ s.world.logging = false) := by
  refine .bind (.attempt (Q := fun opened s => match opened with
    | .ok k? => o.RestsWith (Sink.heldOf k?) none session s
    | .error f => f.IsNaming name ∧ o.Rests session s)
    (ensures_openSink?.onError fun _ _ hs => ⟨hs.2, hs.1⟩)) fun opened => ?_
  have huntold {f : Failure} (hf : o.IsRefusal f) : ¬ f.message?.isSome := by
    obtain ⟨k, -, rfl⟩ := hf
    exact Bool.false_ne_true
  rcases opened with f | k?
  · refine .assume ?_
    rintro (rfl | ⟨rfl, -⟩)
    · refine .bind ((ensures_installLog none).onError fun _ _ hs htold => absurd htold (huntold hs.2))
        fun _ => .fail fun s hs _ => ⟨?_, hs.1⟩
      rw [hs.2.1]
    · exact .fail fun _ _ htold => by cases htold
  · exact (ensures_installLog k?).mono (fun _ hs => hs) (fun _ _ _ => trivial)
      fun _ _ hs htold => absurd htold (huntold hs.2)

end SqlConsole.Console

import SqlConsole.Proofs.Console.Doing
import SqlConsole.Proofs.World.Woven

/-! What a sink gets while statements are traced to it: the texts that the engine says it begins, and no
others. -/
namespace SqlConsole.Console
open Act (Agrees Ensures Keeps)
open Execute (Paired)
open Scene (Related)
open World (Steady)

variable {o : Origin} {k : Sink} {k? : Option Sink} {p deeds : List Deed} {s s₀ t u : Scene Console}
  {line : List Char} {arguments : List String}

private theorem text_line (sql : String) : String.ofList (sql.toList ++ ['\n']) = sql ++ "\n" := by
  rw [String.ofList_append, String.ofList_toList]

/-! Statements that are traced to a file. -/

/-- The worlds are the same. The sink is open, and since some past it has got just the texts that began. -/
structure Tapped (k : Sink) (p : List Deed) (w w' : World) : Prop where
  same : w' = w
  isOpen : w.IsOpen k
  past : ∃ done, w.past = woven k done ++ p ∧ ∀ d ∈ done, d.textTo? k = none

/-- Statements go to the sink, and nothing else does. -/
structure Directed (k : Sink) (c : Console) : Prop where
  trace : c.session.trace = some k
  output : c.session.output.id? ≠ k.id?
  log : ∀ j ∈ c.session.log, j.id? ≠ k.id?

/-- The engine tells which statements it begins on the connection. -/
def IsTraced (db? : Option Connection) : Prop := ∃ db, db? = some db ∧ db.traced

theorem steady_tapped (hk : k.isStream = false) : Steady (· ≠ k.id?) (Tapped k p) where
  same h := by rw [h.same]
  changed h hpast hpreserves := by
    obtain ⟨rfl, hopen, hwoven⟩ := h
    rw [← hpast] at hwoven ⊢
    exact ⟨rfl, hpreserves.isOpen k (not_not.2 rfl) hopen, hwoven⟩
  noted {w w' d} h hd := by
    obtain ⟨rfl, hopen, done, hpast, hdone⟩ := h
    refine ⟨rfl, ?_, d :: done, ?_, List.forall_mem_cons.2 ⟨?_, hdone⟩⟩
    · cases k <;> exact hopen
    · rw [woven_plain hd, hpast, List.cons_append]
    -- what else is written goes to sinks of other numbers
    · cases d with
      | wrote k' text => exact if_neg fun heq => hd (congrArg Sink.id? heq)
      | _ => rfl
  fresh {w w'} h := by
    cases k with
    | opened id name => exact fun heq => Nat.lt_irrefl _ (Option.some.inj heq ▸ h.isOpen.lt_length)
    | _ => cases hk

/-- A text that begins is written to the file, whether the file takes it or not. -/
theorem tapped_began {σ : Type} {O : σ → σ → Prop} (sql : String) :
    Act.Respects (Related (Tapped k p) O)
      (do Act.note (.began sql); Act.write k (sql.toList ++ ['\n']) : Act σ Unit) := by
  rintro s t ⟨⟨hsame, hopen, done, hpast, hdone⟩, hown⟩
  let begun (x : Scene σ) : Scene σ :=
    { x with world := { x.world with past := .began sql :: x.world.past } }
  have hbegun : (begun s).world.IsOpen k := by cases k <;> exact hopen
  obtain ⟨r, w, hwrite, -, hstays, hnew⟩ := Act.write_of_isOpen hbegun (sql.toList ++ ['\n'])
  have hboth := Agrees.same_write (O := O) k (sql.toList ++ ['\n']) (begun s) (begun t)
    ⟨by simp only [begun, hsame], hown⟩
  rw [hwrite] at hboth
  obtain ⟨hend, hworld, hown'⟩ := hboth
  show (Act.write k _ (begun s)).1 = (Act.write k _ (begun t)).1 ∧
    Related (Tapped k p) O (Act.write k _ (begun s)).2 (Act.write k _ (begun t)).2
  rw [hwrite]
  refine ⟨hend, ⟨hworld.symm, (hstays.isOpen_iff k).2 hbegun, .began sql :: done, ?_, ?_⟩, hown'⟩
  · rw [hnew, woven_began, text_line]
    exact congrArg (fun past => _ :: _ :: past) hpast
  · exact List.forall_mem_cons.2 ⟨rfl, hdone⟩

theorem concord_tapped (hk : k.isStream = false) :
    Concord (· ≠ k.id?) (Tapped k p) (Directed k) fun db? db?' => db?' = db? ∧ IsTraced db? where
  steady := steady_tapped hk
  streams h := by simp [Sink.isStream, ← h] at hk
  settings h _ := ⟨h.trace, h.output, h.log⟩
  opened h _ _ := ⟨h.trace, h.output, h.log⟩
  output h := h.output
  log h := h.log
  unopened := by
    rintro _ ⟨-, _, ⟨⟩, -⟩
  linked := by
    rintro db _ ⟨rfl, _, ⟨⟩, htraced⟩
    refine ⟨db, rfl, rfl, fun c hc => ⟨steady_tapped hk, hc.output, hc.log, fun sql => ?_⟩⟩
    unfold Execute.trace
    rw [htraced, hc.trace]
    exact tapped_began sql
  putOutput h hk := ⟨h.trace, hk, h.log⟩
  putLog h hk := ⟨h.trace, h.output, hk⟩
  logging b h := ⟨by rw [h.same], by cases k <;> exact h.isOpen, h.past⟩
  statement t h := ⟨by rw [h.same], by cases k <;> exact h.isOpen, h.past⟩
  session h hsession := by
    obtain ⟨htrace, houtput, hlog⟩ := h
    rw [← hsession] at htrace houtput hlog
    exact ⟨htrace, houtput, hlog⟩

/-! Statements that are traced to one of the streams of others. -/

/-- The console as it would be if the engine did not tell it which statements it begins. -/
def untraced (s : Scene Console) : Scene Console where
  world := s.world
  own := { s.own with db := s.own.db.map fun db => { db with traced := false } }

/-- The worlds are the same but for the texts that are written to the sink in the first one. -/
structure Shown (k : Sink) (p : List Deed) (w w' : World) : Prop where
  same : w' = { w with past := w'.past }
  past : ∃ done, w.past = woven k done ++ p ∧ w'.past = done ++ p

theorem steady_shown : Steady (fun _ => True) (Shown k p) where
  same h := h.same
  changed h hpast _ := by
    obtain ⟨-, hwoven⟩ := h
    rw [← hpast] at hwoven
    exact ⟨rfl, hwoven⟩
  noted {w w' d} h hd := by
    obtain ⟨hsame, done, hpast, hpast'⟩ := h
    refine ⟨by rw [hsame], d :: done, ?_, by rw [hpast', List.cons_append]⟩
    rw [woven_plain hd, hpast, List.cons_append]
  fresh _ := trivial

theorem concord_shown (hk : k.isStream) :
    Concord (fun _ => True) (Shown k p) (fun c => c.session.trace = some k)
      fun db? db?' => IsTraced db? ∧ db?' = db?.map fun db => { db with traced := false } where
  steady := steady_shown
  streams := trivial
  settings h _ := h
  opened h _ _ := h
  output _ := trivial
  log _ _ _ := trivial
  unopened := by
    rintro _ ⟨⟨_, ⟨⟩, -⟩, -⟩
  linked := by
    rintro db _ ⟨⟨_, ⟨⟩, htraced⟩, rfl⟩
    refine ⟨_, rfl, rfl, fun c hc => ⟨steady_shown, trivial, fun _ _ => trivial, fun {σ O} sql => ?_⟩⟩
    unfold Execute.trace
    rw [htraced, hc]
    -- the one side writes the text, and the other one does nothing
    have hwrite : (Act.write k (sql.toList ++ ['\n']) : Act σ Unit) = Act.note (.wrote k (sql ++ "\n")) := by
      cases k with
      | opened => cases hk
      | _ => exact congrArg (fun text => Act.note (.wrote _ text)) (text_line sql)
    rintro s t ⟨⟨hsame, done, hpast, hpast'⟩, hown⟩
    dsimp only
    rw [hwrite]
    refine ⟨rfl, ⟨?_, .began sql :: done, congrArg (fun past => _ :: _ :: past) hpast,
      congrArg (_ :: ·) hpast'⟩, hown⟩
    exact congrArg (fun w : World => { w with past := .began sql :: t.world.past }) hsame
  putOutput h _ := h
  putLog h _ := h
  logging b h := ⟨by rw [h.same], h.past⟩
  statement t h := ⟨by rw [h.same], h.past⟩
  session h hsession := by rw [hsession, h]

/-! What a line to trace does with a sink. -/

theorem keeps_connection : Keeps (fun s => s.world.concerning k = deeds) connection := by
  refine .bind (Ensures.own fun _ hs => hs) fun c => ?_
  cases c.db with
  | some db => exact .pure db
  | none =>
    refine .bind (Ensures.modifyOwn fun _ hs => hs) fun _ => .bind (Act.keeps_note nofun) fun _ =>
      .bind (Ensures.world fun _ hs => hs) fun w => ?_
    dsimp only
    split
    · exact .fail _
    · exact .fail _
    · exact .bind (Ensures.modifyOwn fun _ hs => hs) fun _ => .pure _

theorem keeps_putTrace (k? : Option Sink) :
    Keeps (fun s => s.world.concerning k = deeds) (putTrace k?) :=
  .bind (Ensures.modifyOwn fun _ hs => hs) fun _ => .bind keeps_connection fun _ =>
    Ensures.modifyOwn fun _ hs => hs

/-- The sink is installed, unless the one before cannot be closed well. -/
theorem traceInto_trace (h : ∀ f, (traceInto k? s).1 = .error f → ¬ f.IsOfSink) :
    (traceInto k? s).2.own.session.trace = k? := by
  obtain ⟨r, t, heq, ⟨-, hhooks⟩ | ⟨-, -, -, -, hhooks⟩ | ⟨f, rfl, hf, -⟩⟩ := traceInto_cases k? s <;>
    rw [heq] at h ⊢
  · exact congrArg Hooks.trace hhooks
  · exact congrArg Hooks.trace hhooks
  · exact absurd hf (h f rfl)

theorem concerning_traceInto (h : s.own.session.trace ≠ some k) (k? : Option Sink) :
    (traceInto k? s).2.world.concerning k = s.world.concerning k := by
  have hall : Keeps (fun t => t.world.concerning k = s.world.concerning k)
      (do s.own.session.trace.forM Act.close; putTrace k?) :=
    .bind (Act.keeps_option_close fun j hj heq => h (hj.trans (congrArg some heq))) fun _ => keeps_putTrace k?
  exact hall.apply (s := s) rfl rfl

/-- The sink that statements went to is closed. -/
theorem concerning_traceInto_held (hk : k.isStream = false) (htrace : s.own.session.trace = some k)
    (hopen : s.world.IsOpen k) (k? : Option Sink) :
    (traceInto k? s).2.world.concerning k = s.world.concerning k ++ [.closed k] := by
  have hstep : traceInto k? s = (do Act.close k; putTrace k?) s := by
    rw [traceInto, Act.bind_ok (show Act.own s = (.ok s.own, s) from rfl), htrace]
    rfl
  have hall : Ensures (fun t => t.world.IsOpen k ∧ t.world.concerning k = s.world.concerning k)
      (do Act.close k; putTrace k?) (fun _ t => t.world.concerning k = s.world.concerning k ++ [.closed k])
      (fun _ t => t.world.concerning k = s.world.concerning k ++ [.closed k]) :=
    .bind (Act.ensures_close hk) fun _ => keeps_putTrace k?
  rw [hstep]
  exact hall.leads ⟨hopen, rfl⟩ (fun _ _ h => h) fun _ _ h => h

/-- What a user is told of the line goes to no file, and no user is told that a sink fails. -/
theorem dotLine_setTrace (hmeans : Means line .trace arguments) (hk : k.isStream = false)
    (feed : Source → Act Console Outcome) (s : Scene Console) :
    (dotLine feed line s).2.own = (setTrace (arguments.headD "") s).2.own ∧
      (dotLine feed line s).2.world.concerning k =
        (setTrace (arguments.headD "") s).2.world.concerning k ∧
      ∀ outcome, (dotLine feed line s).1 = .ok outcome →
        ∀ f, (setTrace (arguments.headD "") s).1 = .error f → ¬ f.IsOfSink := by
  rw [dotLine_of_done feed hmeans rfl]
  rcases setTrace (arguments.headD "") s with ⟨f | _, t⟩
  · dsimp only
    cases hmessage : f.message? with
    | none => exact ⟨rfl, rfl, nofun⟩
    | some message =>
      refine ⟨rfl, (World.concerning_of_past (w := t.world) rfl k).trans ?_, ?_⟩
      · rw [if_neg, List.append_nil]
        rintro ⟨⟩
        cases hk
      · rintro _ - _ ⟨⟩ ⟨_, _, rfl⟩
        cases hmessage
  · exact ⟨rfl, rfl, nofun⟩

/-- The line installs a sink that has just been opened or given, or none, where it comes to an outcome. -/
theorem retraced_cases (h : Retraces line) (hk : k.isStream = false) (feed : Source → Act Console Outcome)
    (s : Scene Console) : ∃ k? u, Supplied s k? u ∧
      (dotLine feed line s).2.world.concerning k = (traceInto k? u).2.world.concerning k ∧
      ∀ outcome, (dotLine feed line s).1 = .ok outcome →
        (dotLine feed line s).2.own.session.trace = k? := by
  obtain ⟨arguments, hmeans, hname⟩ := h
  obtain ⟨hown, hsame, hwell⟩ := dotLine_setTrace hmeans hk feed s
  rw [hown, hsame]
  rcases setTrace_cases (arguments.headD "") s with ⟨-, ⟨k?, u, hsupplied, heq⟩ | ⟨c, heq⟩⟩ | ⟨-, hname'⟩
  · rw [heq] at hwell ⊢
    exact ⟨k?, u, hsupplied, rfl, fun outcome hok => traceInto_trace (hwell outcome hok)⟩
  · rw [heq, Act.bind_apply] at hwell ⊢
    have htrace : (∀ f, (traceInto none s).1 = .error f → ¬ f.IsOfSink) →
        (traceInto none s).2.own.session.trace = none := traceInto_trace
    refine ⟨none, s, .given nofun, ?_⟩
    generalize traceInto none s = installed at hwell htrace ⊢
    rcases installed with ⟨_ | _, _⟩
    · exact ⟨rfl, fun outcome hok => htrace (hwell outcome hok)⟩
    · exact ⟨rfl, fun _ _ => htrace (by simp)⟩
  · exact absurd hname' hname

/-! Lines that have statements traced. -/

/-- A line has come to an outcome, and it has had statements traced to the sink. -/
structure Installs (line : List Char) (k : Sink) (s t : Scene Console) : Prop where
  retraces : Retraces line
  does : ∃ feed outcome, dotLine feed line s = (.ok outcome, t)
  sink : t.own.session.trace = some k

/-- The line is one to trace statements, whatever it names. -/
def Traces (line : List Char) : Prop := ∃ arguments, Means line .trace arguments

theorem Retraces.traces (h : Retraces line) : Traces line := h.imp fun _ h => h.1

/-- The database is open, or it can be opened. -/
def CanOpen (s : Scene Console) : Prop :=
  s.own.db.isSome ∨ s.world.script.openFault? (mainFile s.own) = none

theorem Retraces.move (h : Retraces line) (feed : Source → Act Console Outcome) (s : Scene Console) :
    Move (fun _ => True) s (dotLine feed line s).2 := by
  obtain ⟨_, hmeans, -⟩ := h
  exact .line trivial (fun ⟨_, hread⟩ => nomatch (hmeans.unique hread).1) feed s

/-- A sink of the session that is open has been written to only, and it is no other sink of the session. -/
theorem directed_of_stands (hs : o.Stands s) (htrace : s.own.session.trace = some k)
    (hk : k.isStream = false) (hopen : s.world.IsOpen k) : Directed k s.own ∧
      ∃ texts : List String, s.world.concerning k = .opened k :: texts.map (.wrote k) := by
  let others := s.own.session.output.held ++ Sink.heldOf s.own.session.log
  have hheld : s.own.session.held.Perm (k :: others) := by
    rw [Session.held, htrace, show Sink.heldOf (some k) = [k] by simp [Sink.heldOf, Sink.held, hk]]
    exact List.perm_middle
  have haccounts := hs.2.perm hheld
  -- a stream has no number, and what else is held has another one
  have hother {j : Sink} (hj : j ∈ j.held → j ∈ others) : j.id? ≠ k.id? := by
    by_cases hstream : j.isStream
    · intro heq
      rw [Sink.isStream, heq] at hstream
      exact Bool.false_ne_true (hk.symm.trans hstream)
    · exact haccounts.id?_ne_of_isOpen hopen (hj (by simp [Sink.held, hstream]))
  refine ⟨⟨htrace, hother (List.mem_append_left _), fun j hj => hother fun hself => ?_⟩, ?_⟩
  · exact List.mem_append_right _ (List.mem_flatMap.2 ⟨j, Option.mem_toList.2 hj, hself⟩)
  · obtain ⟨sinks, shut, lost, hbalances, hledger⟩ := haccounts.ledger
    exact (Origin.tale hledger k).last (Origin.isOrderly hledger)
      (hbalances.mem_of_isOpen List.mem_cons_self hopen)

/-- The sink is a new one, and nothing has been written to it. -/
theorem Installs.concerning (h : Installs line k s t) (hs : o.Stands s) (hk : k.isStream = false) :
    t.world.concerning k = [.opened k] := by
  obtain ⟨hretraces, ⟨feed, outcome, hline⟩, hsink⟩ := h
  obtain ⟨k?, u, hsupplied, hsame, htrace⟩ := retraced_cases hretraces hk feed s
  rw [hline] at hsame htrace
  obtain rfl : k? = some k := (htrace outcome rfl).symm.trans hsink
  rw [hsame]
  cases hsupplied with
  | given hstream => exact absurd (hstream k rfl) (by simp [hk])
  | @file _ w hid hpast hlogging hscript hopen =>
    have hother : s.own.session.trace ≠ some k := by
      intro hold
      have hmem : k ∈ s.own.session.held := by simp [Session.held, hold, Sink.heldOf, Sink.held, hk]
      exact hs.2.id?_ne_length hmem hid
    obtain ⟨sinks, shut, lost, -, hledger⟩ := hs.2.ledger
    have hnew : s.world.concerning k = [] :=
      (Origin.tale hledger k).start (Origin.isOrderly hledger) hid
    calc (traceInto (some k) ⟨w, s.own⟩).2.world.concerning k
        = w.concerning k := concerning_traceInto (s := ⟨w, s.own⟩) hother _
      _ = [.opened k] := by
          rw [World.concerning_of_past hpast, hnew]
          exact if_pos rfl

/-- The next such line closes the sink. -/
theorem Retraces.closes (h : Retraces line) (hk : k.isStream = false) (htrace : s.own.session.trace = some k)
    (hopen : s.world.IsOpen k) (feed : Source → Act Console Outcome) :
    (dotLine feed line s).2.world.concerning k = s.world.concerning k ++ [.closed k] := by
  obtain ⟨k?, u, hsupplied, hsame, -⟩ := retraced_cases h hk feed s
  rw [hsame]
  cases hsupplied with
  | given => exact concerning_traceInto_held hk htrace hopen _
  | @file k' w hid hpast hlogging hscript hopen' =>
    have hother : Deed.sink? (.opened k') ≠ some k := by
      rintro ⟨⟩
      cases k with
      | opened id name => exact Nat.lt_irrefl _ (Option.some.inj hid ▸ hopen.lt_length)
      | _ => cases hk
    calc (traceInto (some k') ⟨w, s.own⟩).2.world.concerning k
        = w.concerning k ++ [.closed k] :=
          concerning_traceInto_held (s := ⟨w, s.own⟩) hk htrace (hopen' k hopen) _
      _ = s.world.concerning k ++ [.closed k] := by
          rw [World.concerning_of_past hpast, if_neg hother, List.append_nil]

/-- The sink is the first one that is closed with the session, whatever becomes of the others. -/
private theorem closeSession_directed (hk : k.isStream = false) :
    Ensures (fun t => Directed k t.own ∧ t.world.IsOpen k ∧ t.world.concerning k = deeds) closeSession
      (fun _ t => t.world.concerning k = deeds ++ [.closed k])
      (fun _ t => t.world.concerning k = deeds ++ [.closed k]) := by
  have hsession {deeds : List Deed} {f : Session → Session} :
      Keeps (fun t => t.world.concerning k = deeds) (modifySession f) := Ensures.modifyOwn fun _ hs => hs
  refine .bind (Q := fun c t => Directed k c ∧ t.world.IsOpen k ∧ t.world.concerning k = deeds)
    (Ensures.own fun t ht => ht) fun c => .assume ?_
  rintro ⟨htrace, houtput, hlog⟩
  have hne {j : Sink} (hid : j.id? ≠ k.id?) : j ≠ k := fun heq => hid (congrArg Sink.id? heq)
  dsimp only
  rw [htrace]
  exact .bind (Act.ensures_close hk) fun _ => .bind hsession fun _ =>
    .bind (Act.keeps_option_close fun j hj => hne (hlog j hj)) fun _ => .bind hsession fun _ =>
      .bind (Act.keeps_close (hne houtput)) fun _ => hsession

/-- Closing the console closes the sink. -/
theorem closeAll_closes (hk : k.isStream = false) (h : Directed k s.own) (hopen : s.world.IsOpen k) :
    (closeAll s).2.world.concerning k = s.world.concerning k ++ [.closed k] := by
  let I (deeds : List Deed) (t : Scene Console) : Prop := t.world.concerning k = deeds
  let P (t : Scene Console) : Prop := Directed k t.own ∧ t.world.IsOpen k ∧ I (s.world.concerning k) t
  have hall : Ensures P closeAll (fun _ => I (s.world.concerning k ++ [.closed k]))
      (fun _ => I (s.world.concerning k ++ [.closed k])) := by
    refine .bind (Q := fun _ => P) (Ensures.own fun t ht => ht) fun c =>
      .whether ?_ (.bind (closeSession_directed hk) fun _ => ?_)
    · rintro t ⟨hdirected, hopen, hI⟩
      exact ⟨hdirected, by cases k <;> exact hopen, hI⟩
    · cases c.db with
      | none => exact Keeps.pure ()
      | some db => exact .bind (Act.keeps_note nofun) fun _ => Ensures.modifyOwn fun _ hs => hs
  exact hall.leads ⟨h, hopen, rfl⟩ (fun _ _ h => h) fun _ _ h => h

/-! Runs. -/

theorem Installs.traced (h : Installs line k s u) (hopen : CanOpen s) : IsTraced u.own.db := by
  obtain ⟨⟨arguments, hmeans, hname⟩, ⟨feed, outcome, hline⟩, hsink⟩ := h
  rcases trace_line hmeans feed s with ⟨-, ⟨k?, t, heq, hhooks⟩ | ⟨r, t, heq, -, hhooks | hstrands⟩ |
    ⟨f, t, heq, -⟩⟩ | ⟨hnot, -⟩
  · cases hline.symm.trans heq
    obtain rfl : some k = k? := hsink.symm.trans (congrArg Hooks.trace hhooks)
    exact (Option.any_eq_true _ _).1 (congrArg Hooks.traced hhooks)
  · cases hline.symm.trans heq
    cases hsink.symm.trans (congrArg Hooks.trace hhooks)
  · obtain ⟨_, hfault, hclosed, -⟩ := hstrands.bereft
    rcases hopen with hdb | hfree
    · rw [hclosed] at hdb
      cases hdb
    · rw [hfree] at hfault
      cases hfault
  · cases hline.symm.trans heq
  · exact absurd ⟨arguments, hmeans, hname⟩ hnot

theorem Installs.stands (h : Installs line k s u) (hs : o.Stands s) : o.Stands u := by
  obtain ⟨feed, outcome, hline⟩ := h.does
  have hu := (h.retraces.move feed s).stands hs
  rwa [hline] at hu

/-- The sink is open: nothing has been done with it but that. -/
theorem Installs.isOpen (h : Installs line k s u) (hs : o.Stands s) (hk : k.isStream = false) :
    u.world.IsOpen k := by
  obtain ⟨sinks, shut, lost, hbalances, hledger⟩ := (h.stands hs).2.ledger
  have htale := Origin.tale hledger k
  rw [h.concerning hs hk] at htale
  generalize hdeeds : [Deed.opened k] = deeds at htale
  cases htale with
  | stream texts hstream => exact absurd hstream (by simp [hk])
  | unopened => cases hdeeds
  | opened texts hmem => exact hbalances.isOpen k hmem
  | closed => simp at hdeeds

/-- Until the next line of that kind, the file gets the texts that begin. -/
theorem Installs.file_exact (h : Installs line k s u) (hs : o.Stands s) (hopen : CanOpen s)
    (hk : k.isStream = false) (hmoves : Moves (fun line => ¬ Retraces line) u t) :
    t.own.session.trace = some k ∧ t.world.IsOpen k ∧
      ∃ texts, t.world.announced = u.world.announced ++ texts ∧
        t.world.concerning k = .opened k :: texts.map fun sql => .wrote k (sql ++ "\n") := by
  have hu := h.stands hs
  have hisOpen := h.isOpen hs hk
  obtain ⟨hdirected, -⟩ := directed_of_stands hu h.sink hk hisOpen
  obtain ⟨doings, hall, rfl⟩ := hmoves.exists_doings
  -- both sides are the same here: only what is said of the one counts
  have hstart : Related (Tapped k u.world.past)
      (Sides (Directed k) fun db? db?' => db?' = db? ∧ IsTraced db?) u u :=
    ⟨⟨rfl, hisOpen, [], rfl, List.forall_mem_nil _⟩, u.own.db, hdirected, rfl, h.traced hopen⟩
  obtain ⟨⟨-, hstays, done, hpast, hdone⟩, hsides⟩ := (concord_tapped hk).after hall hstart
  have htrace := hsides.rest_left.trace
  obtain ⟨-, texts, htexts⟩ := directed_of_stands (hmoves.stands hu) htrace hk hstays
  refine ⟨htrace, hstays, _, announced_of_woven hpast, ?_⟩
  -- what was done with the file, and what was written to it, are the same texts
  have hwritten := written_of_woven hpast hdone
  rw [World.written_eq, World.written_eq, h.concerning hs hk, htexts] at hwritten
  have hsame : texts = (done.filterMap Deed.announced?).reverse.map (· ++ "\n") := by
    simpa [Deed.textTo?, List.filterMap_cons, List.filterMap_map, Function.comp_def] using hwritten
  rw [htexts, hsame, List.map_map]
  rfl

/-- Until the next line of that kind, tracing to a stream only adds the texts that begin: with no tracing the
same things would be done, and lead to the same. -/
theorem Installs.stream_exact (h : Installs line k s u) (hopen : CanOpen s) (hk : k.isStream)
    (hmoves : Moves (fun line => ¬ Retraces line) u t) :
    ∃ doings done, t = Doing.after doings u ∧ t.world.past = woven k done ++ u.world.past ∧
      Doing.after doings (untraced u) = (untraced t).withPast (done ++ u.world.past) := by
  obtain ⟨doings, hall, rfl⟩ := hmoves.exists_doings
  have hstart : Related (Shown k u.world.past)
      (Sides (fun c => c.session.trace = some k)
        fun db? db?' => IsTraced db? ∧ db?' = db?.map fun db => { db with traced := false })
      u (untraced u) :=
    ⟨⟨rfl, [], rfl, rfl⟩, _, h.sink, h.traced hopen, rfl⟩
  obtain ⟨⟨hsame, done, hpast, hpast'⟩, hsides⟩ := (concord_shown hk).after hall hstart
  refine ⟨doings, done, rfl, hpast, ?_⟩
  generalize Doing.after doings (untraced u) = v at hsame hpast' hsides
  obtain ⟨w, c⟩ := v
  obtain ⟨db?, -, -, rfl⟩ := hsides
  rw [hpast'] at hsame
  exact congrArg (Scene.mk · _) hsame

/-- Wherever a run comes to a line that has statements traced, over a database that can be opened, and
whatever is done until the next such line or until the console is closed: a file gets just the texts that
the engine says it begins meanwhile, each followed by a newline, and it gets nothing after that if the line
names what can be opened. A stream of others gets these texts besides what it would get without them. -/
theorem Run.trace_exact (hrun : Run s₀ s) (hopen : CanOpen s) (hinstalls : Installs line k s u)
    (hinputs : Inputs (fun line => ¬ Traces line) u t) :
    ∃ texts, t.world.announced = u.world.announced ++ texts ∧
      (k.isStream = false →
        t.world.concerning k = .opened k :: texts.map (fun sql => .wrote k (sql ++ "\n")) ∧
        (closeAll t).2.world.concerning k = t.world.concerning k ++ [.closed k] ∧
        ∀ line feed v, Retraces line → Inputs (fun _ => True) (dotLine feed line t).2 v →
          v.world.concerning k = t.world.concerning k ++ [.closed k]) ∧
      (k.isStream → ∃ doings done, t = Doing.after doings u ∧
        t.world.past = woven k done ++ u.world.past ∧
        Doing.after doings (untraced u) = (untraced t).withPast (done ++ u.world.past)) := by
  have hs := hrun.stands
  have hu := hinstalls.stands hs
  have hmoves := Moves.mono (fun _ hnot hretraces => hnot (Retraces.traces hretraces)) (hinputs.moves hu)
  have ht := hmoves.stands hu
  cases hk : k.isStream with
  | true =>
    obtain ⟨doings, done, hafter, hpast, hbare⟩ := hinstalls.stream_exact hopen hk hmoves
    exact ⟨_, announced_of_woven hpast, nofun, fun _ => ⟨doings, done, hafter, hpast, hbare⟩⟩
  | false =>
    obtain ⟨htrace, hisOpen, texts, hannounced, hconcerning⟩ := hinstalls.file_exact hs hopen hk hmoves
    obtain ⟨hdirected, -⟩ := directed_of_stands ht htrace hk hisOpen
    refine ⟨texts, hannounced, fun _ => ⟨hconcerning, closeAll_closes hk hdirected hisOpen, ?_⟩, nofun⟩
    -- the sink is closed, and what is closed is left alone for good
    intro line feed v hretraces hlater
    have hcloses := hretraces.closes hk htrace hisOpen feed
    have hnext := (hretraces.move feed t).stands ht
    have hmoves' := hlater.moves hnext
    obtain ⟨_, _, _, -, hledger⟩ := hnext.2.ledger
    obtain ⟨_, _, _, -, hledger'⟩ := (hmoves'.stands hnext).2.ledger
    have hclosed : .closed k ∈ (dotLine feed line t).2.world.past := by
      have hmem : .closed k ∈ (dotLine feed line t).2.world.concerning k := by
        rw [hcloses]
        exact List.mem_append_right _ List.mem_cons_self
      exact (List.mem_filter.1 (List.mem_reverse.1 hmem)).1
    rw [Origin.concerning_of_closed hledger hledger' hmoves'.grows hclosed, hcloses]

/-- Statements are traced to one file and then to another one, while statistics are on. -/
theorem trace_exact_switched : ∃ u t v, Run untouched untouched ∧ CanOpen untouched ∧
    Installs ".trace f".toList (.opened 0 "f") untouched u ∧
    Inputs (fun line => ¬ Traces line) u t ∧ t.world.announced = ["a;", "b;"] ∧
    Retraces ".trace g".toList ∧
    Inputs (fun _ => True) (dotLine readSource ".trace g".toList t).2 v ∧
    v.world.announced = ["a;", "b;", "c;"] ∧
    v.world.concerning (.opened 0 "f") = [.opened (.opened 0 "f"), .wrote (.opened 0 "f") "a;\n",
      .wrote (.opened 0 "f") "b;\n", .closed (.opened 0 "f")] := by
  let u := (dotLine readSource ".trace f".toList untouched).2
  let counted := ((Request.command ".stats on".toList).perform u).2
  let t := ((Request.query "a;b;" none).perform counted).2
  let v := ((Request.query "c;" none).perform (dotLine readSource ".trace g".toList t).2).2
  have hstats : Means ".stats on".toList .stats ["on"] := ⟨"stats", rfl, by decide⟩
  have hfollows : Follows (fun line => ¬ Traces line) ".stats on".toList u :=
    ⟨fun ⟨_, hmeans⟩ => (nomatch (hstats.unique hmeans).1 : False),
      fun _ _ _ ⟨_, hmeans, _⟩ => nomatch (hstats.unique hmeans).1⟩
  have hrun : Run untouched untouched := ⟨isFresh_untouched, .nothing⟩
  have hopen : CanOpen untouched := .inr rfl
  have hinstalls : Installs ".trace f".toList (.opened 0 "f") untouched u :=
    ⟨⟨["f"], ⟨"trace", rfl, by decide⟩, by decide⟩, ⟨readSource, .success, rfl⟩, rfl⟩
  have hcounted : Inputs (fun line => ¬ Traces line) u counted := .request .nothing (.command _) hfollows
  have hinputs : Inputs (fun line => ¬ Traces line) u t := .request hcounted (.query _ _) trivial
  have hretraces : Retraces ".trace g".toList := ⟨["g"], ⟨"trace", rfl, by decide⟩, by decide⟩
  have hlater : Inputs (fun _ => True) (dotLine readSource ".trace g".toList t).2 v :=
    .request .nothing (.query _ _) trivial
  obtain ⟨texts, hannounced, hfile, -⟩ := hrun.trace_exact hopen hinstalls hinputs
  obtain ⟨hconcerning, -, hnext⟩ := hfile rfl
  have htold : t.world.announced = ["a;", "b;"] := by decide +kernel
  obtain rfl : texts = ["a;", "b;"] := hannounced.symm.trans htold
  refine ⟨u, t, v, hrun, hopen, hinstalls, hinputs, htold, hretraces, hlater, by decide +kernel, ?_⟩
  rw [hnext _ readSource v hretraces hlater, hconcerning]
  rfl

/-! Lines that name nothing, and lines that say more than a name. -/

/-- Words that stand for no command with as many arguments are refused: the user is told of them, and nothing
else changes. -/
theorem dotLine_of_unknown {typed : String} (feed : Source → Act Console Outcome)
    (hwords : (Command.words line).map String.ofList = typed :: arguments)
    (hfind : Command.find? typed arguments.length = none) (s : Scene Console) :
    dotLine feed line s = (.ok .error, s.noted (.wrote .stderr
      ("Error: unknown command or invalid arguments:  \"" ++ typed ++
        "\". Enter \".help\" for help\n"))) := by
  unfold dotLine
  rw [hwords]
  dsimp only
  rw [hfind]
  exact congrArg (fun text => (Except.ok Outcome.error, s.noted (.wrote .stderr text))) String.ofList_toList

/-- No command that takes no arguments goes by what may be typed for the one to trace. -/
private theorem find?_trace_unnamed {typed : String} (htyped : Command.matchesTyped typed 1 .trace) :
    Command.find? typed 0 = none := by
  have hstart : typed.toList ∈ "trace".toList.inits := by
    simp only [Command.matchesTyped, Bool.and_eq_true] at htyped
    exact (List.mem_inits _ _).2 (List.isPrefixOf_iff_prefix.1 htyped.1.2)
  have hnone : ∀ start ∈ "trace".toList.inits, start ≠ [] →
      Command.find? (String.ofList start) 0 = none := by decide +kernel
  have hne : typed.toList ≠ [] := by
    intro hempty
    rw [String.toList_eq_nil_iff] at hempty
    subst hempty
    cases htyped
  have hfound := hnone _ hstart hne
  rwa [String.ofList_toList] at hfound

/-- A line to trace that names nothing is refused: statements go on to be traced where they were. -/
theorem dotLine_trace_unnamed {typed : String} (hwords : (Command.words line).map String.ofList = [typed])
    (htyped : Command.matchesTyped typed 1 .trace) (feed : Source → Act Console Outcome)
    (s : Scene Console) : ¬ Traces line ∧
      dotLine feed line s = (.ok .error, s.noted (.wrote .stderr
        ("Error: unknown command or invalid arguments:  \"" ++ typed ++
          "\". Enter \".help\" for help\n"))) := by
  have hfind := find?_trace_unnamed htyped
  refine ⟨?_, dotLine_of_unknown feed hwords hfind s⟩
  rintro ⟨arguments, typed', hwords', hfind'⟩
  cases hwords.symm.trans hwords'
  cases hfind.symm.trans hfind'

/-- What comes after the name is ignored. -/
theorem dotLine_trace_overfull {line' : List Char} {name : String} {rest : List String}
    (h : Means line .trace (name :: rest)) (h' : Means line' .trace [name])
    (feed : Source → Act Console Outcome) : dotLine feed line = dotLine feed line' := by
  rw [dotLine_of_means h, dotLine_of_means h']
  rfl

/-- A line to trace that names nothing is no end of tracing. -/
theorem trace_goes_on :
    let s := (dotLine readSource ".trace f".toList untouched).2
    let t := (dotLine readSource ".trace".toList s).2
    t.world.announced = [] ∧ (runSql "a;" none t).2.world.written (.opened 0 "f") = ["a;\n"] := by
  decide +kernel

end SqlConsole.Console

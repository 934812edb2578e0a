import SqlConsole.Proofs.Console.Request
import SqlConsole.Proofs.Console.Steady

/-! What the engine tells the console: the messages of its log, and the statements that it begins. It does so
while there is a sink for that, but for one place where a sink is installed too early. -/
namespace SqlConsole.Console
open Act (Keeps Respects)
open Scene (Related)

/-- The sinks for what the engine tells, and whether it tells it. -/
structure Hooks where
  log : Option Sink
  trace : Option Sink
  logging : Bool
  traced : Bool
  deriving DecidableEq, Repr

def hooks (s : Scene Console) : Hooks where
  log := s.own.session.log
  trace := s.own.session.trace
  logging := s.world.logging
  traced := s.own.db.any (·.traced)

namespace Hooks

def withLog (h : Hooks) (k? : Option Sink) : Hooks := { h with log := k?, logging := k?.isSome }

def withTrace (h : Hooks) (k? : Option Sink) : Hooks := { h with trace := k?, traced := k?.isSome }

/-- The engine tells exactly what there is a sink for. -/
structure Match (h : Hooks) : Prop where
  log : h.log.isSome = h.logging
  trace : h.trace.isSome = h.traced

end Hooks

/-- The line is one to trace statements, and its name is one that something can be opened by. -/
def Retraces (line : List Char) : Prop :=
  ∃ arguments, Means line .trace arguments ∧ '\x00' ∉ (arguments.headD "").toList

/-- Statements are to go to that sink, and the database that they are run on cannot be opened. -/
def Bereft (s : Scene Console) (k? : Option Sink) (t : Scene Console) : Prop :=
  (s.world.script.openFault? (mainFile s.own)).isSome ∧ s.own.db = none ∧ t.own.db = none ∧
    hooks t = { hooks s with trace := k?, traced := false }

/-- The line has installed its sink, and then could not open the database that it is to trace. -/
structure Strands (line : List Char) (s t : Scene Console) : Prop where
  retraces : Retraces line
  does : ∃ feed, t = (dotLine feed line s).2
  bereft : ∃ k, Bereft s (some k) t

variable {P : List Char → Prop} {s s₀ t : Scene Console} {line : List Char}

/-! Sinks that are opened and closed. -/

/-- What closing comes to: all is well, or a sink fails. -/
def ClosesWell (r : Except Failure Unit) : Prop := r = .ok () ∨ ∃ f, r = .error f ∧ f.IsOfSink

theorem close_quiet {σ : Type} (k : Sink) (s : Scene σ) : ∃ r w, Act.close k s = (r, ⟨w, s.own⟩) ∧
    ClosesWell r ∧ w.logging = s.world.logging ∧ w.script = s.world.script := by
  by_cases hopen : s.world.IsOpen k
  · cases k with
    | opened id name =>
      obtain ⟨r, w, hclose, hr, hscript, -, -, -, -, -, hlogging⟩ := Act.close_of_isOpen hopen
      exact ⟨r, w, hclose, hr.imp_right fun h => ⟨_, h.1, _, _, rfl⟩, hlogging, hscript⟩
    | _ => exact ⟨_, _, rfl, .inl rfl, rfl, rfl⟩
  · exact ⟨_, s.world, Act.close_of_not_isOpen hopen, .inl rfl, rfl, rfl⟩

theorem forM_close_quiet {σ : Type} (k? : Option Sink) (s : Scene σ) : ∃ r w,
    k?.forM Act.close s = (r, ⟨w, s.own⟩) ∧ ClosesWell r ∧ w.logging = s.world.logging ∧
      w.script = s.world.script := by
  cases k? with
  | none => exact ⟨_, _, rfl, .inl rfl, rfl, rfl⟩
  | some k => exact close_quiet k s

/-- The sink is none, or one of the streams that are there from the start, or it has just been opened. -/
inductive Supplied (s : Scene Console) : Option Sink → Scene Console → Prop where
  | given {k? : Option Sink} (hstream : ∀ k ∈ k?, k.isStream) : Supplied s k? s
  | file {k : Sink} {w : World} (hid : k.id? = some s.world.handles.length)
      (hpast : w.past = .opened k :: s.world.past) (hlogging : w.logging = s.world.logging)
      (hscript : w.script = s.world.script) (hopen : ∀ j, s.world.IsOpen j → w.IsOpen j) :
      Supplied s (some k) ⟨w, s.own⟩

namespace Supplied
variable {u : Scene Console} {k? : Option Sink} (h : Supplied s k? u)
include h

theorem own : u.own = s.own := by cases h <;> rfl

theorem logging : u.world.logging = s.world.logging := by
  cases h with
  | given => rfl
  | file _ _ hlogging => exact hlogging

theorem script : u.world.script = s.world.script := by
  cases h with
  | given => rfl
  | file _ _ _ hscript => exact hscript

end Supplied

/-- How it ends to open a sink by a name. -/
inductive Opening (name : String) (s : Scene Console) :
    Except Failure (Option Sink) × Scene Console → Prop where
  | done {k? : Option Sink} {t : Scene Console} (hsupplied : Supplied s k? t) (hname : '\x00' ∉ name.toList) :
      Opening name s (.ok k?, t)
  | refused (hname : '\x00' ∉ name.toList) : Opening name s (.error (.complaint (.cannotOpen name)), s)
  | zeroCharacter (hname : '\x00' ∈ name.toList) : Opening name s (.error .zeroCharacter, s)

/-- A name is checked before anything is opened by it. -/
private theorem opening_checked {name : String} {x : Act Console Sink}
    (hx : '\x00' ∉ name.toList → Opening name s ((x >>= fun k => pure (some k)) s)) :
    Opening name s ((((if name.toList.contains '\x00' then Act.fail .zeroCharacter else pure () :
      Act Console Unit) >>= fun _ => x) >>= fun k => pure (some k)) s) := by
  by_cases hname : '\x00' ∈ name.toList
  · rw [if_pos (List.contains_iff_mem.2 hname)]
    exact .zeroCharacter hname
  · rw [if_neg fun h => hname (List.contains_iff_mem.1 h)]
    exact hx hname

private theorem opening_file (name : String) (s : Scene Console) :
    Opening name s ((Act.openFile name >>= fun k => pure (some k)) s) := by
  refine opening_checked fun hname => ?_
  rw [Act.bind_apply, Act.bind_apply, Act.world]
  dsimp only
  cases hspot : s.world.files.spot name with
  | none => exact .refused hname
  | some spot =>
    cases spot with
    | folder => exact .refused hname
    | _ => exact .done (.file rfl rfl rfl rfl fun _ hj => hj.add _ _ _) hname

theorem openSink?_opening (name : String) (s : Scene Console) : Opening name s (openSink? name s) := by
  have hgiven (word : String) (hword : '\x00' ∉ word.toList) {k? : Option Sink}
      (hstream : ∀ k ∈ k?, k.isStream) (heq : name = word) : Opening name s (.ok k?, s) :=
    .done (.given hstream) (heq ▸ hword)
  unfold openSink?
  split
  · exact hgiven "stdout" (by decide) (by simp [Sink.isStream, Sink.id?]) ‹_›
  · split
    · exact hgiven "stderr" (by decide) (by simp [Sink.isStream, Sink.id?]) ‹_›
    · split
      · exact hgiven "off" (by decide) (by simp) ‹_›
      · exact opening_file name s

/-! Sinks that are installed. -/

/-- How it ends to open the database, where it is not open yet. -/
theorem connection_cases (s : Scene Console) :
    (∃ db t, connection s = (.ok db, t) ∧ t.own.db = some db ∧ t.own.session = s.own.session ∧
        t.world.logging = s.world.logging) ∨
      ∃ f t, connection s = (.error f, t) ∧ (s.world.script.openFault? (mainFile s.own)).isSome ∧
        s.own.db = none ∧ t.own.db = none ∧ t.own.session = s.own.session ∧
        t.world.logging = s.world.logging := by
  cases hdb : s.own.db with
  | some db =>
    left
    refine ⟨db, s, ?_, hdb, rfl, rfl⟩
    unfold connection
    rw [Act.bind_ok (show Act.own s = (.ok s.own, s) from rfl), hdb]
    rfl
  | none =>
    rw [connection_apply hdb]
    cases hopen : s.world.script.openFault? (mainFile s.own) with
    | none => exact .inl ⟨_, _, rfl, rfl, rfl, rfl⟩
    | some f => cases f <;> exact .inr ⟨_, _, rfl, rfl, rfl, hdb, rfl, rfl⟩

private theorem installLog_cases (k? : Option Sink) (s : Scene Console) : ∃ r t, (do
      (← Act.own).session.log.forM Act.close
      modifySession fun s => { s with log := k? }
      Act.modifyWorld fun w => { w with logging := k?.isSome } : Act Console Unit) s = (r, t) ∧
    (r = .ok () ∧ hooks t = (hooks s).withLog k? ∨
      ∃ f, r = .error f ∧ f.message? = none ∧ hooks t = hooks s) := by
  obtain ⟨r, w, hclose, rfl | ⟨f, rfl, k, fault, rfl⟩, hlogging, -⟩ := forM_close_quiet s.own.session.log s
  · rw [Act.bind_ok (show Act.own s = (.ok s.own, s) from rfl), Act.bind_ok hclose]
    exact ⟨_, _, rfl, .inl ⟨rfl, rfl⟩⟩
  · rw [Act.bind_ok (show Act.own s = (.ok s.own, s) from rfl), Act.bind_error hclose]
    exact ⟨_, _, rfl, .inr ⟨_, rfl, rfl, congrArg (Hooks.mk _ _ · _) hlogging⟩⟩

/-- What comes of choosing the log. -/
theorem hooks_setLog (name : String) (s : Scene Console) :
    (∃ k? t, setLog name s = (.ok (), t) ∧ hooks t = (hooks s).withLog k?) ∨
      (∃ c t, setLog name s = (.error (.complaint c), t) ∧ hooks t = (hooks s).withLog none) ∨
      ∃ f t, setLog name s = (.error f, t) ∧ f.message? = none ∧ hooks t = hooks s := by
  unfold setLog
  rw [Act.bind_apply, Act.attempt]
  have hsupplied := openSink?_opening name s
  generalize openSink? name s = opened at hsupplied ⊢
  cases hsupplied with
  | @done k? u hsupplied _ =>
    have hsame : hooks u = hooks s := by rw [hooks, hooks, hsupplied.own, hsupplied.logging]
    obtain ⟨r, t, hinstall, ⟨rfl, hhooks⟩ | ⟨f, rfl, hmessage, hhooks⟩⟩ := installLog_cases k? u
    · exact .inl ⟨k?, t, hinstall, hsame ▸ hhooks⟩
    · exact .inr (.inr ⟨f, t, hinstall, hmessage, hhooks.trans hsame⟩)
  | refused =>
    obtain ⟨r, t, hinstall, ⟨rfl, hhooks⟩ | ⟨f, rfl, hmessage, hhooks⟩⟩ := installLog_cases none s
    · exact .inr (.inl ⟨_, t, Act.bind_ok hinstall _, hhooks⟩)
    · exact .inr (.inr ⟨f, t, Act.bind_error hinstall _, hmessage, hhooks⟩)
  | zeroCharacter => exact .inr (.inr ⟨_, s, rfl, rfl, rfl⟩)

/-- Has statements written to the sink from now on, if there is one. -/
def putTrace (k? : Option Sink) : Act Console Unit := do
  modifySession fun s => { s with trace := k? }
  let db ← connection
  Act.modifyOwn fun c => { c with db := some { db with traced := k?.isSome } }

/-- Does so in the place of the sink before, which is closed. -/
def traceInto (k? : Option Sink) : Act Console Unit := do
  (← Act.own).session.trace.forM Act.close
  putTrace k?

theorem traceInto_cases (k? : Option Sink) (s : Scene Console) :
    ∃ r t, traceInto k? s = (r, t) ∧
      (r = .ok () ∧ hooks t = (hooks s).withTrace k? ∨ (∃ f, r = .error f) ∧ Bereft s k? t ∨
        ∃ f, r = .error f ∧ f.IsOfSink ∧ hooks t = hooks s) := by
  obtain ⟨r, w, hclose, hwell, hlogging, hscript⟩ := forM_close_quiet s.own.session.trace s
  rw [traceInto, Act.bind_ok (show Act.own s = (.ok s.own, s) from rfl)]
  rcases hwell with rfl | ⟨f, rfl, hf⟩
  swap
  · rw [Act.bind_error hclose]
    exact ⟨_, _, rfl, .inr (.inr ⟨f, rfl, hf, congrArg (Hooks.mk _ _ · _) hlogging⟩)⟩
  let u : Scene Console := ⟨w, { s.own with session := { s.own.session with trace := k? } }⟩
  rw [Act.bind_ok hclose, putTrace,
    Act.bind_ok (show modifySession (fun s => { s with trace := k? }) ⟨w, s.own⟩ = (.ok (), u) from rfl)]
  rcases connection_cases u with ⟨db, t, hopen, hdb, hsession, hsame⟩ |
    ⟨f, t, hopen, hfault, hs, ht, hsession, hsame⟩
  · rw [Act.bind_ok hopen]
    refine ⟨_, _, rfl, .inl ⟨rfl, ?_⟩⟩
    simp [hooks, Hooks.withTrace, hsession, hsame, hlogging, u]
  · rw [Act.bind_error hopen]
    refine ⟨_, _, rfl, .inr (.inl ⟨⟨f, rfl⟩, ?_, hs, ht, ?_⟩)⟩
    · rwa [← hscript]
    · simp [hooks, hsession, hsame, hlogging, ht, u]

/-- To choose where statements are written is to install a sink, or none if it cannot be opened. -/
theorem setTrace_cases (name : String) (s : Scene Console) :
    '\x00' ∉ name.toList ∧ (
      (∃ k? u, Supplied s k? u ∧ setTrace name s = traceInto k? u) ∨
      ∃ c, setTrace name s = (do traceInto none; Act.complain c : Act Console Unit) s) ∨
      setTrace name s = (.error .zeroCharacter, s) ∧ '\x00' ∈ name.toList := by
  unfold setTrace
  rw [Act.bind_apply, Act.attempt]
  have hsupplied := openSink?_opening name s
  generalize openSink? name s = opened at hsupplied ⊢
  cases hsupplied with
  | @done k? u hsupplied hname => exact .inl ⟨hname, .inl ⟨k?, u, hsupplied, rfl⟩⟩
  | refused hname => exact .inl ⟨hname, .inr ⟨_, rfl⟩⟩
  | zeroCharacter hname => exact .inr ⟨rfl, hname⟩

/-- What comes of choosing where statements are written. -/
theorem hooks_setTrace (name : String) (s : Scene Console) :
    '\x00' ∉ name.toList ∧ (
      (∃ k? t, setTrace name s = (.ok (), t) ∧ hooks t = (hooks s).withTrace k?) ∨
      (∃ f t, setTrace name s = (.error f, t) ∧ (hooks t = (hooks s).withTrace none ∨
        ∃ k?, Bereft s k? t)) ∨
      ∃ f t, setTrace name s = (.error f, t) ∧ f.IsOfSink ∧ hooks t = hooks s) ∨
      setTrace name s = (.error .zeroCharacter, s) ∧ '\x00' ∈ name.toList := by
  refine (setTrace_cases name s).imp_left fun ⟨hname, hends⟩ => ⟨hname, ?_⟩
  rcases hends with ⟨k?, u, hsupplied, heq⟩ | ⟨c, heq⟩
  · have hsame : hooks u = hooks s := by rw [hooks, hooks, hsupplied.own, hsupplied.logging]
    obtain ⟨r, t, hinstall, ⟨rfl, hhooks⟩ | ⟨⟨f, rfl⟩, hbereft⟩ | ⟨f, rfl, hf, hhooks⟩⟩ :=
      traceInto_cases k? u
    · exact .inl ⟨k?, t, heq.trans hinstall, hsame ▸ hhooks⟩
    · refine .inr (.inl ⟨f, t, heq.trans hinstall, .inr ⟨k?, ?_⟩⟩)
      rw [Bereft, hsame, hsupplied.own, hsupplied.script] at hbereft
      exact hbereft
    · exact .inr (.inr ⟨f, t, heq.trans hinstall, hf, hhooks.trans hsame⟩)
  · obtain ⟨r, t, hinstall, ⟨rfl, hhooks⟩ | ⟨⟨f, rfl⟩, hbereft⟩ | ⟨f, rfl, hf, hhooks⟩⟩ :=
      traceInto_cases none s
    · exact .inr (.inl ⟨_, t, heq.trans (Act.bind_ok hinstall _), .inl hhooks⟩)
    · exact .inr (.inl ⟨f, t, heq.trans (Act.bind_error hinstall _), .inr ⟨none, hbereft⟩⟩)
    · exact .inr (.inr ⟨f, t, heq.trans (Act.bind_error hinstall _), hf, hhooks⟩)

/-! Lines. -/

/-- A line whose command has no outcome of its own. -/
theorem dotLine_of_done {command : Command} {arguments : List String}
    (feed : Source → Act Console Outcome) {x : Act Console Unit} (hmeans : Means line command arguments)
    (hx : runCommand feed command arguments = (do x; pure .success)) (s : Scene Console) :
    dotLine feed line s = match x s with
      | (.ok _, t) => (.ok .success, t)
      | (.error f, t) =>
        match f.message? with
        | some message => (.ok .error, t.noted (.wrote .stderr ("Error: " ++ message ++ "\n")))
        | none => (.error f, t) := by
  rw [dotLine_of_means hmeans, hx, reported_eq, Act.bind_apply]
  rcases x s with ⟨f | _, t⟩ <;> rfl

/-- A line to choose the log. -/
theorem log_line {arguments : List String} (h : Means line .log arguments)
    (feed : Source → Act Console Outcome) (s : Scene Console) :
    (∃ k? t, dotLine feed line s = (.ok .success, t) ∧ hooks t = (hooks s).withLog k?) ∨
      (∃ t, dotLine feed line s = (.ok .error, t) ∧ hooks t = (hooks s).withLog none) ∨
      ∃ f t, dotLine feed line s = (.error f, t) ∧ hooks t = hooks s := by
  rw [dotLine_of_done feed h rfl]
  rcases hooks_setLog (arguments.headD "") s with ⟨k?, t, hset, hhooks⟩ | ⟨c, t, hset, hhooks⟩ |
    ⟨f, t, hset, hmessage, hhooks⟩ <;> rw [hset]
  · exact .inl ⟨k?, t, rfl, hhooks⟩
  · exact .inr (.inl ⟨_, rfl, hhooks⟩)
  · simp only [hmessage]
    exact .inr (.inr ⟨f, t, rfl, hhooks⟩)

/-- A line to trace statements, by a name that something can be opened by or not. -/
theorem trace_line {arguments : List String} (h : Means line .trace arguments)
    (feed : Source → Act Console Outcome) (s : Scene Console) :
    Retraces line ∧ (
      (∃ k? t, dotLine feed line s = (.ok .success, t) ∧ hooks t = (hooks s).withTrace k?) ∨
      (∃ r t, dotLine feed line s = (r, t) ∧ r ≠ .ok .success ∧
        (hooks t = (hooks s).withTrace none ∨ Strands line s t)) ∨
      ∃ f t, dotLine feed line s = (.error f, t) ∧ f.IsOfSink ∧ hooks t = hooks s) ∨
      ¬ Retraces line ∧ dotLine feed line s = (.error .zeroCharacter, s) := by
  have hline := dotLine_of_done feed h rfl s
  rcases hooks_setTrace (arguments.headD "") s with
    ⟨hname, ⟨k?, t, hset, hhooks⟩ | ⟨f, t, hset, hends⟩ | ⟨f, t, hset, hf, hhooks⟩⟩ | ⟨hset, hname⟩ <;>
    rw [hset] at hline
  · exact .inl ⟨⟨arguments, h, hname⟩, .inl ⟨k?, t, hline, hhooks⟩⟩
  · refine .inl ⟨⟨arguments, h, hname⟩, .inr (.inl ?_)⟩
    have hstrands {u : Scene Console} (hu : (dotLine feed line s).2 = u) (hhooks : hooks u = hooks t)
        (hdb : u.own.db = t.own.db) : hooks u = (hooks s).withTrace none ∨ Strands line s u := by
      rcases hends with htrace | ⟨_ | k, hfault, hs, ht, htrace⟩
      · exact .inl (hhooks.trans htrace)
      · exact .inl (hhooks.trans htrace)
      · exact .inr ⟨⟨arguments, h, hname⟩, ⟨feed, hu.symm⟩, k, hfault, hs, hdb.trans ht, hhooks.trans htrace⟩
    cases hmessage : f.message? with
    | none =>
      simp only [hmessage] at hline
      exact ⟨_, _, hline, nofun, hstrands (by rw [hline]) rfl rfl⟩
    | some message =>
      simp only [hmessage] at hline
      exact ⟨_, _, hline, nofun, hstrands (by rw [hline]) rfl rfl⟩
  · obtain ⟨k, fault, rfl⟩ := id hf
    exact .inl ⟨⟨arguments, h, hname⟩, .inr (.inr ⟨_, t, hline, hf, hhooks⟩)⟩
  · refine .inr ⟨?_, hline⟩
    rintro ⟨arguments', h', hname'⟩
    rw [(h.unique h').2] at hname
    exact hname' hname

/-! Everything else. -/

theorem not_mem_directing {command : Command} (hlog : command ≠ .log) (houtput : command ≠ .output)
    (htrace : command ≠ .trace) : command ∉ directing := by
  simp [directing, hlog, houtput, htrace]

/-- Nothing but the lines for it has to do with what the engine tells. -/
theorem hooks_accord (h : Hooks) :
    Accord (fun _ => True) (Still fun logging _ => logging = h.logging)
      (fun c => c.session.log = h.log ∧ c.session.trace = h.trace)
      fun db? db?' => db?' = db? ∧ db?.any (·.traced) = h.traced :=
  .still (fun _ _ hc => hc) (fun _ _ _ hc => hc) fun hnone _ => hnone

theorem keeps_hooks {h : Hooks} {α : Type} {x : Act Console α}
    (hx : Respects (Related (Still fun logging _ => logging = h.logging)
      (Sides (fun c => c.session.log = h.log ∧ c.session.trace = h.trace)
        fun db? db?' => db?' = db? ∧ db?.any (·.traced) = h.traced)) x) :
    Keeps (fun s => hooks s = h) x := by
  refine (keeps_still hx).mono (fun s hs => ?_) (fun _ s hs => ?_) fun _ s hs => ?_
  · subst hs
    exact ⟨rfl, ⟨rfl, rfl⟩, rfl⟩
  · obtain ⟨hlogging, ⟨hlog, htrace⟩, htraced⟩ := hs
    exact congr (congr (congr (congrArg Hooks.mk hlog) htrace) hlogging) htraced
  · obtain ⟨hlogging, ⟨hlog, htrace⟩, htraced⟩ := hs
    exact congr (congr (congr (congrArg Hooks.mk hlog) htrace) hlogging) htraced

theorem hooks_of_keeps {α : Type} {x : Act Console α}
    (hx : Keeps (fun t => hooks t = hooks s) x) : hooks (x s).2 = hooks s := hx.apply rfl rfl

/-- A move that is no line to trace statements leaves that alone. -/
theorem Move.hooks_spared (h : Move (fun line => ¬ Retraces line) s t) :
    hooks t = hooks s ∨ ∃ k?, hooks t = (hooks s).withLog k? := by
  have hA := hooks_accord (hooks s)
  cases h with
  | @line line hP hline feed =>
    by_cases hlog : ∃ arguments, Means line .log arguments
    · obtain ⟨arguments, hmeans⟩ := hlog
      rcases log_line hmeans feed s with ⟨k?, t, heq, hhooks⟩ | ⟨t, heq, hhooks⟩ |
        ⟨f, t, heq, hhooks⟩ <;> rw [heq]
      · exact .inr ⟨k?, hhooks⟩
      · exact .inr ⟨none, hhooks⟩
      · exact .inl hhooks
    · by_cases htrace : ∃ arguments, Means line .trace arguments
      · obtain ⟨arguments, hmeans⟩ := htrace
        rcases trace_line hmeans feed s with ⟨hretraces, -⟩ | ⟨-, heq⟩
        · exact absurd hretraces hP
        · rw [heq]
          exact .inl rfl
      · refine .inl (hooks_of_keeps (keeps_hooks (hA.dotLine fun command arguments hmeans => ?_)))
        by_cases houtput : command = .output
        · subst houtput
          exact .bind (hA.setOutput (fun _ _ hs _ => hs) _) fun _ => .pure _
        · refine hA.runCommand feed (not_mem_directing ?_ houtput ?_) (hmeans.ne_read hline) arguments
          · rintro rfl
            exact hlog ⟨arguments, hmeans⟩
          · rintro rfl
            exact htrace ⟨arguments, hmeans⟩
  | sql sql line? =>
    exact .inl (hooks_of_keeps (keeps_hooks (hA.runSql (fun w w' t h => ⟨by rw [h.1], h.2⟩) sql line?)))
  | opened =>
    have hconnection : Respects _ (connection >>= pure) := hA.connected fun db db' hdb => by
      obtain ⟨⟨⟩, -⟩ := hdb
      exact .pure db
    rw [bind_pure] at hconnection
    exact .inl (hooks_of_keeps (keeps_hooks hconnection))
  | wrote | interrupt | history | setting => exact .inl rfl
  | own c hsession hdb =>
    left
    simp only [hooks, hsession, hdb]

/-! Runs. -/

/-- A move that is no line to trace statements, or such a line that could not close the sink before. -/
def Bypasses (s t : Scene Console) : Prop :=
  Move (fun line => ¬ Retraces line) s t ∨
    ∃ line feed f, Retraces line ∧ dotLine feed line s = (.error f, t) ∧ f.IsOfSink

/-- A line could not open the database that it was to trace, and no other such line has got through since. -/
def Stranded (s₀ s : Scene Console) : Prop :=
  ∃ line t u, Moves (fun _ => True) s₀ t ∧ Strands line t u ∧ Relation.ReflTransGen Bypasses u s

/-- A move is one where lines are of another kind, unless it is a line that is not. -/
theorem Move.kind (h : Move P s t) (Q : List Char → Prop) :
    Move Q s t ∨ ∃ line feed, P line ∧ ¬ Q line ∧ t = (dotLine feed line s).2 := by
  cases h with
  | @line line hP hline feed =>
    by_cases hQ : Q line
    · exact .inl (.line hQ hline feed s)
    · exact .inr ⟨line, feed, hP, hQ, rfl⟩
  | sql sql line? => exact .inl (.sql sql line? s)
  | opened => exact .inl (.opened s)
  | wrote hk text => exact .inl (.wrote hk text s)
  | interrupt hdb => exact .inl (.interrupt hdb)
  | history he => exact .inl (.history he s)
  | setting t haside => exact .inl (.setting t haside)
  | own c hsession hdb => exact .inl (.own c hsession hdb)

theorem Moves.mono {Q : List Char → Prop} (hPQ : ∀ line, P line → Q line) (h : Moves P s t) :
    Moves Q s t :=
  Relation.ReflTransGen.mono (fun _ _ hmove =>
    (hmove.kind Q).resolve_right fun ⟨_, _, hP, hnot, _⟩ => hnot (hPQ _ hP)) _ _ h

theorem hooks_retraced (h : Retraces line) (feed : Source → Act Console Outcome) (s : Scene Console) :
    (∃ k?, hooks (dotLine feed line s).2 = (hooks s).withTrace k?) ∨
      Strands line s (dotLine feed line s).2 ∨
      hooks (dotLine feed line s).2 = hooks s ∧ Bypasses s (dotLine feed line s).2 := by
  obtain ⟨arguments, hmeans, -⟩ := id h
  rcases trace_line hmeans feed s with
    ⟨-, ⟨k?, t, heq, hhooks⟩ | ⟨r, t, heq, -, hends⟩ | ⟨f, t, heq, hf, hhooks⟩⟩ | ⟨hnot, -⟩
  · rw [heq]
    exact .inl ⟨k?, hhooks⟩
  · rw [heq]
    exact hends.imp (fun hhooks => ⟨none, hhooks⟩) .inl
  · rw [heq]
    exact .inr (.inr ⟨hhooks, .inr ⟨line, feed, f, h, heq, hf⟩⟩)
  · exact absurd h hnot

/-- There is a sink for statements exactly where they are traced, but where a line was stranded. -/
def Attuned (s₀ s : Scene Console) : Prop :=
  (hooks s).trace.isSome = (hooks s).traced ∨
    Stranded s₀ s ∧ (hooks s).trace.isSome ∧ (hooks s).traced = false

theorem Moves.attuned (h : Moves P s₀ s) (hstart : (hooks s₀).Match) :
    (hooks s).log.isSome = (hooks s).logging ∧ Attuned s₀ s := by
  induction h with
  | refl => exact ⟨hstart.log, .inl hstart.trace⟩
  | @tail t u hmoves hmove ih =>
    obtain ⟨hlog, htrace⟩ := ih
    have hattuned (hbypasses : Bypasses t u) (hsink : (hooks u).trace = (hooks t).trace)
        (htraced : (hooks u).traced = (hooks t).traced) : Attuned s₀ u := by
      unfold Attuned
      rw [hsink, htraced]
      refine htrace.imp_right fun ⟨⟨line, t', u', hbefore, hstrands, hafter⟩, hsome⟩ => ⟨?_, hsome⟩
      exact ⟨line, t', u', hbefore, hstrands, hafter.tail hbypasses⟩
    rcases hmove.kind fun line => ¬ Retraces line with hspared | ⟨line, feed, -, hretraces, rfl⟩
    · rcases hspared.hooks_spared with heq | ⟨k?, heq⟩
      · exact ⟨heq ▸ hlog, hattuned (.inl hspared) (by rw [heq]) (by rw [heq])⟩
      · exact ⟨by rw [heq]; rfl, hattuned (.inl hspared) (by rw [heq]; rfl) (by rw [heq]; rfl)⟩
    · rcases hooks_retraced (not_not.1 hretraces) feed t with ⟨k?, heq⟩ | hstrands | ⟨heq, hbypasses⟩
      · unfold Attuned
        rw [heq]
        exact ⟨hlog, .inl rfl⟩
      · obtain ⟨k, -, -, -, heq⟩ := hstrands.bereft
        have hbefore : Moves (fun _ => True) s₀ t := Moves.mono (fun _ _ => trivial) hmoves
        unfold Attuned
        rw [heq]
        exact ⟨hlog, .inr ⟨⟨line, t, _, hbefore, hstrands, .refl⟩, rfl, rfl⟩⟩
      · exact ⟨heq ▸ hlog, hattuned hbypasses (by rw [heq]) (by rw [heq])⟩

/-- Wherever a run comes to the console is told of the engine's log exactly while it has a sink for that, and
of the statements that begin exactly while it has one for them, except after a line to trace that could not
open the database: that leaves the sink which it has just installed. An error of such a line, but for this
one, and any error of a line for the log leave neither a sink nor anything that the engine tells. -/
theorem Run.hooks_match (hrun : Run s₀ s) (hstart : (hooks s₀).Match) :
    (hooks s).log.isSome = (hooks s).logging ∧ Attuned s₀ s ∧
      ∀ feed line t, dotLine feed line s = (.ok .error, t) →
        ((∃ arguments, Means line .log arguments) → hooks t = (hooks s).withLog none) ∧
        ((∃ arguments, Means line .trace arguments) →
          hooks t = (hooks s).withTrace none ∨ Strands line s t) := by
  obtain ⟨hlog, htrace⟩ := hrun.moves.attuned hstart
  refine ⟨hlog, htrace, fun feed line t herror => ⟨?_, ?_⟩⟩
  · rintro ⟨arguments, hmeans⟩
    rcases log_line hmeans feed s with ⟨k?, t', heq, -⟩ | ⟨t', heq, hhooks⟩ | ⟨f, t', heq, -⟩
    · cases heq.symm.trans herror
    · cases heq.symm.trans herror
      exact hhooks
    · cases heq.symm.trans herror
  · rintro ⟨arguments, hmeans⟩
    rcases trace_line hmeans feed s with
      ⟨-, ⟨k?, t', heq, -⟩ | ⟨r, t', heq, -, hends⟩ | ⟨f, t', heq, -⟩⟩ | ⟨-, heq⟩
    · cases heq.symm.trans herror
    · cases heq.symm.trans herror
      exact hends
    · cases heq.symm.trans herror
    · cases heq.symm.trans herror

/-- Statements are traced to a file, and then to one that cannot be opened. -/
theorem hooks_match_folder :
    ∃ s t, Run untouched s ∧ (hooks untouched).Match ∧
      dotLine readSource ".trace /tmp".toList s = (.ok .error, t) ∧
      hooks s = ⟨none, some (.opened 0 "f"), false, true⟩ ∧ Attuned untouched s ∧
      hooks t = ⟨none, none, false, false⟩ := by
  let s := ((Request.command ".trace f".toList).perform untouched).2
  let t := (dotLine readSource ".trace /tmp".toList s).2
  have hrun : Run untouched s := ⟨isFresh_untouched,
    .request .nothing (.command _) (follows_of_forall (fun _ => trivial) _ _)⟩
  have hstart : (hooks untouched).Match := ⟨rfl, rfl⟩
  have herror : dotLine readSource ".trace /tmp".toList s = (.ok .error, t) := rfl
  have hmeans : Means ".trace /tmp".toList .trace ["/tmp"] := ⟨"trace", rfl, by decide⟩
  obtain ⟨-, hattuned, hafter⟩ := hrun.hooks_match hstart
  refine ⟨s, t, hrun, hstart, herror, rfl, hattuned, ?_⟩
  rcases (hafter _ _ t herror).2 ⟨_, hmeans⟩ with hhooks | hstrands
  · exact hhooks
  · obtain ⟨_, hfault, -⟩ := hstrands.bereft
    cases hfault

/-- A console whose database cannot be opened. -/
def barred : Scene Console where
  world := { script := { openFaults :=
    [(memoryName, .error ⟨.cantOpen, "unable to open database file", some 14⟩)] } }
  own := {}

/-- The sink stays, though the line has returned an error and nothing is traced. -/
theorem hooks_part : ∃ s, Run barred s ∧ (hooks barred).Match ∧
    dotLine readSource ".trace t".toList barred = (.ok .error, s) ∧
    hooks s = ⟨none, some (.opened 0 "t"), false, false⟩ ∧ ¬ (hooks s).Match := by
  refine ⟨((Request.command ".trace t".toList).perform barred).2, ⟨⟨rfl, rfl, rfl, rfl, rfl⟩, ?_⟩, ⟨rfl, rfl⟩,
    rfl, rfl, fun h => ?_⟩
  · exact .request .nothing (.command _) (follows_of_forall (fun _ => trivial) _ _)
  · cases h.trace

end SqlConsole.Console

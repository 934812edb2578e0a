import SqlConsole.Proofs.Console.Connects
import SqlConsole.Proofs.Console.Copies

/-! Copies of databases, step by step: what the engine is asked for while a copy goes on, how often a
busy database is tried again, and how the copy ends. -/
namespace SqlConsole.Console
open Engine (BackupAnswer Event StepAnswer)

/-- The answer to the step after `n` others. The last answer is given again and again. -/
def answerTo (answers : List StepAnswer) (n : Nat) : StepAnswer :=
  (answers[n]?.or answers.getLast?).getD .done

def isBusy : StepAnswer → Bool
  | .fault (.error e) => e.kind.isTransient
  | _ => false

/-- How a copy ends whose last step had that answer. -/
def verdict (a : StepAnswer) : Except Failure Unit :=
  match a with
  | .fault f => .error (if isBusy a then .complaint .sourceBusy else .ofFault f)
  | _ => .ok ()

/-- The answer that decides a copy, and those before it, from a point where `taken` answers have been
given and `retries` steps been tried again: one that asks for more decides nothing, and neither do
three that say that the database is busy. -/
structure Decided (answers : List StepAnswer) (taken retries : Nat) (before : List StepAnswer)
    (last : StepAnswer) : Prop where
  given : ∀ n a, (before ++ [last])[n]? = some a → answerTo answers (taken + n) = a
  goesOn : ∀ a ∈ before, a = .more ∨ isBusy a
  within : retries + before.countP isBusy ≤ busyRetries
  decides : last ≠ .more
  busy : isBusy last → retries + before.countP isBusy = busyRetries

/-- A step that does not decide the copy, and the sleep after it where the database was busy. -/
def stepEvents (a : StepAnswer) : List Event :=
  .step pagesPerStep :: if isBusy a then [.sleep busyMilliseconds] else []

/-- All steps of a copy, with those before the one that decides it. -/
def copyEvents (before : List StepAnswer) : List Event :=
  before.flatMap stepEvents ++ [.step pagesPerStep]

section Steps
variable {σ : Type} {answers before : List StepAnswer} {last : StepAnswer} {taken retries : Nat}

theorem decided_cons_iff {a : StepAnswer} : Decided answers taken retries (a :: before) last ↔
    answerTo answers taken = a ∧ (a = .more ∨ isBusy a) ∧
      Decided answers (taken + 1) (retries + [a].countP isBusy) before last := by
  have hsum : retries + (a :: before).countP isBusy =
      retries + [a].countP isBusy + before.countP isBusy := by
    rw [← List.singleton_append, List.countP_append, Nat.add_assoc]
  constructor
  · rintro ⟨hgiven, hgoes, hretries, hdecides, hbusy⟩
    rw [hsum] at hretries hbusy
    obtain ⟨ha, hgoes⟩ := List.forall_mem_cons.1 hgoes
    refine ⟨hgiven 0 a rfl, ha, fun n b hb => ?_, hgoes, hretries, hdecides, hbusy⟩
    rw [Nat.add_assoc, Nat.add_comm 1 n]
    exact hgiven (n + 1) b hb
  · rintro ⟨hfirst, ha, hgiven, hgoes, hretries, hdecides, hbusy⟩
    rw [← hsum] at hretries hbusy
    refine ⟨fun n b hb => ?_, List.forall_mem_cons.2 ⟨ha, hgoes⟩, hretries, hdecides, hbusy⟩
    cases n with
    | zero =>
      obtain rfl : a = b := by simpa using hb
      exact hfirst
    | succ n =>
      rw [← Nat.add_assoc, Nat.add_right_comm]
      exact hgiven n b hb

theorem decided_nil_iff : Decided answers taken retries [] last ↔
    answerTo answers taken = last ∧ last ≠ .more ∧ retries ≤ busyRetries ∧
      (isBusy last → retries = busyRetries) := by
  constructor
  · rintro ⟨hgiven, -, hretries, hdecides, hbusy⟩
    exact ⟨hgiven 0 last rfl, hdecides, hretries, hbusy⟩
  · rintro ⟨hlast, hdecides, hretries, hbusy⟩
    refine ⟨fun n a ha => ?_, by simp, hretries, hdecides, hbusy⟩
    cases n with
    | zero =>
      obtain rfl : last = a := by simpa using ha
      exact hlast
    | succ n => simp at ha

/-- The answer that decides a copy ends it. -/
private theorem copySteps_last (fuel : Nat) (h : Decided answers taken retries [] last)
    (s : Scene σ) :
    copySteps answers (fuel + 1) taken retries s = (verdict last, s.asked [.step pagesPerStep]) := by
  obtain ⟨hlast, hdecides, -, hbusy⟩ := decided_nil_iff.1 h
  rw [copySteps, Act.bind_ok (Act.event_apply _ s)]
  unfold answerTo at hlast
  rw [hlast]
  cases last with
  | done => rfl
  | more => exact absurd rfl hdecides
  | fault f =>
    cases f with
    | interrupted => rfl
    | error e =>
      cases htransient : e.kind.isTransient with
      | false => simp [verdict, isBusy, htransient, Act.fail, Failure.ofFault]
      | true =>
        have hretries : ¬ retries < busyRetries := by
          rw [hbusy htransient]
          exact Nat.lt_irrefl _
        simp [verdict, isBusy, htransient, hretries, Act.fail, Act.complain]

/-- Any other answer lets it go on, and a busy database is given some time. -/
private theorem copySteps_goesOn (fuel : Nat) {a : StepAnswer}
    (h : Decided answers taken retries (a :: before) last) (s : Scene σ) :
    copySteps answers (fuel + 1) taken retries s =
      copySteps answers fuel (taken + 1) (retries + [a].countP isBusy) (s.asked (stepEvents a)) := by
  obtain ⟨ha, hgoes, hrest⟩ := decided_cons_iff.1 h
  rw [copySteps, Act.bind_ok (Act.event_apply _ s)]
  unfold answerTo at ha
  rw [ha]
  rcases hgoes with rfl | hbusy
  · rfl
  · match a, hbusy with
    | .fault (.error e), hbusy =>
      have htransient : e.kind.isTransient = true := hbusy
      have hretries : retries < busyRetries := by
        have hle := hrest.within
        simp only [List.countP_singleton, hbusy, if_true] at hle
        omega
      simp only [htransient, if_true, hretries]
      rw [Act.bind_ok (Act.event_apply _ _), Scene.asked_asked]
      simp [stepEvents, isBusy, htransient]

/-- The steps of a copy up to the answer that decides it, by induction on the answers before that. -/
private theorem copySteps_decided {fuel : Nat} (h : Decided answers taken retries before last)
    (hfuel : before.length < fuel) (s : Scene σ) :
    copySteps answers fuel taken retries s = (verdict last, s.asked (copyEvents before)) := by
  induction before generalizing fuel taken retries s with
  | nil =>
    obtain ⟨fuel, rfl⟩ := Nat.exists_eq_add_one_of_ne_zero (Nat.ne_zero_of_lt hfuel)
    exact copySteps_last fuel h s
  | cons a before ih =>
    obtain ⟨fuel, rfl⟩ := Nat.exists_eq_add_one_of_ne_zero (Nat.ne_zero_of_lt hfuel)
    rw [copySteps_goesOn fuel h, ih (decided_cons_iff.1 h).2.2 (Nat.lt_of_succ_lt_succ hfuel),
      Scene.asked_asked, copyEvents, copyEvents, List.flatMap_cons, List.append_assoc]

/-- Past its end a script has no more answers than busy ones: one that asks for more would be given
for ever. -/
private theorem Decided.length_lt (h : Decided answers 0 0 before last) :
    before.length < answers.length + busyRetries + 1 := by
  by_contra hlong
  let rest := (answers.getLast?).getD .done
  have hrest (n : Nat) (hn : answers.length ≤ n) : answerTo answers n = rest := by
    rw [answerTo, List.getElem?_eq_none hn, Option.none_or]
  have hgiven (n : Nat) (a : StepAnswer) (hn : answers.length ≤ n)
      (ha : (before ++ [last])[n]? = some a) : a = rest := by
    rw [← h.given n a ha, Nat.zero_add]
    exact hrest n hn
  have hlast : last = rest := hgiven before.length last (by omega) (by simp)
  have hbusy : ∀ a ∈ before.drop answers.length, isBusy a := by
    intro a ha
    obtain ⟨n, hn⟩ := List.mem_iff_getElem?.1 ha
    rw [List.getElem?_drop] at hn
    have hlt := (List.getElem?_eq_some_iff.1 hn).1
    have hsame := hgiven (answers.length + n) a (Nat.le_add_right _ _)
      (by rw [List.getElem?_append_left hlt, hn])
    refine (h.goesOn a (List.mem_of_mem_drop ha)).resolve_left fun hmore => h.decides ?_
    rw [hlast, ← hsame, hmore]
  have hcount := (List.drop_sublist answers.length before).countP_le (p := isBusy)
  rw [List.countP_eq_length.2 hbusy, List.length_drop] at hcount
  have hretries := h.within
  omega

theorem copySteps_of_decided (h : Decided answers 0 0 before last) (s : Scene σ) :
    copySteps answers (answers.length + busyRetries + 1) 0 0 s =
      (verdict last, s.asked (copyEvents before)) :=
  copySteps_decided h h.length_lt s

/-- Only a last answer that asks for more can leave a copy undecided. -/
theorem exists_decided (hmore : answers.getLast? ≠ some .more) (taken : Nat) {retries : Nat}
    (hretries : retries ≤ busyRetries) : ∃ before last, Decided answers taken retries before last := by
  by_cases hgoes : answerTo answers taken = .more
  · have htaken : taken < answers.length := by
      by_contra hend
      rw [answerTo, List.getElem?_eq_none (Nat.le_of_not_lt hend), Option.none_or] at hgoes
      cases hlast : answers.getLast? with
      | none => simp [hlast] at hgoes
      | some a => exact hmore (by rw [hlast, ← hgoes, hlast, Option.getD_some])
    obtain ⟨before, last, hrest⟩ := exists_decided hmore (taken + 1) hretries
    exact ⟨.more :: before, last, decided_cons_iff.2 ⟨hgoes, .inl rfl, hrest⟩⟩
  · by_cases hagain : isBusy (answerTo answers taken) ∧ retries < busyRetries
    · obtain ⟨before, last, hrest⟩ := exists_decided hmore (taken + 1) (Nat.succ_le_of_lt hagain.2)
      refine ⟨_ :: before, last, decided_cons_iff.2 ⟨rfl, .inr hagain.1, ?_⟩⟩
      simpa [hagain.1] using hrest
    · refine ⟨[], _, decided_nil_iff.2 ⟨rfl, hgoes, hretries, fun hbusy => ?_⟩⟩
      exact Nat.le_antisymm hretries (Nat.le_of_not_lt fun hlt => hagain ⟨hbusy, hlt⟩)
termination_by (answers.length - taken) + (busyRetries - retries)

end Steps

/-- Some answer decides each copy that the engine is about to start. -/
def Decides (script : Engine.Script) : Prop :=
  ∀ answers, script.backup.1 = .steps answers → ∃ before last, Decided answers 0 0 before last

/-- How a copy goes that `call` starts, by what the engine says: how it ends, and what the engine is
asked for. -/
inductive Copying (answer : BackupAnswer) (call : Event) : Except Failure Unit → List Event → Prop
  | refused {f : Engine.Fault} (h : answer = .refused f) :
      Copying answer call (.error (.ofFault f)) [call]
  | decided {answers before : List StepAnswer} {last : StepAnswer} (h : answer = .steps answers)
      (hdecided : Decided answers 0 0 before last) :
      Copying answer call (verdict last) (call :: (copyEvents before ++ [.finish]))

/-- How a copy goes to or from another database, which is open for as long as that takes. `call`
starts the copy, given the name of the console's database. -/
inductive Lending (file : String) (call : String → Event) (s : Scene Console) :
    Except Failure Unit → List Event → Prop
  | failed {e : Engine.Error} (hopen : s.world.script.openFault? file = some (.error e)) :
      Lending file call s (.error (.complaint (.cannotOpen file))) [.openOther file]
  | stopped (hopen : s.world.script.openFault? file = some .interrupted) :
      Lending file call s (.error .interrupted) [.openOther file]
  | unconnected {f : Failure} {opening : List Event} (hopen : s.world.script.openFault? file = none)
      (hconnects : Connects s (.error f) opening) :
      Lending file call s (.error f) (.openOther file :: (opening ++ [.close file]))
  | copied {name : String} {r : Except Failure Unit} {opening copy : List Event}
      (hopen : s.world.script.openFault? file = none) (hconnects : Connects s (.ok name) opening)
      (hcopy : Copying s.world.script.backup.1 (call name) r copy) :
      Lending file call s r (.openOther file :: (opening ++ copy ++ [.close file]))

section Copies
variable {σ : Type}

/-- The scene after the engine has said how the next copy goes. -/
def drawn (s : Scene σ) : Scene σ :=
  { s with world := { s.world with script := s.world.script.backup.2 } }

theorem copyDatabase_copying (target targetDb source sourceDb : String) (s : Scene σ)
    (hdecides : Decides s.world.script) : ∃ r events,
      Copying s.world.script.backup.1 (.backup target targetDb source sourceDb) r events ∧
        copyDatabase target targetDb source sourceDb s = (r, (drawn s).asked events) := by
  rw [copyDatabase, Act.bind_ok (Act.event_apply _ s)]
  cases hanswer : s.world.script.backup.1 with
  | refused f =>
    refine ⟨_, _, .refused rfl, ?_⟩
    rw [Act.bind_ok (show Act.world _ = (.ok _, _) from rfl)]
    simp only [Scene.asked, hanswer]
    rfl
  | steps answers =>
    obtain ⟨before, last, hdecided⟩ := hdecides answers hanswer
    refine ⟨_, _, .decided rfl hdecided, ?_⟩
    have hsteps := copySteps_of_decided hdecided
      ((drawn s).asked [.backup target targetDb source sourceDb])
    rw [Act.bind_ok (show Act.world _ = (.ok _, _) from rfl)]
    have hfinish := Act.ensuring_event hsteps .finish
    rw [Scene.asked_asked, Scene.asked_asked] at hfinish
    simp only [Scene.asked, hanswer]
    exact hfinish

/-- The copy is all that is done between the opening of the other database and its close. -/
private theorem exists_lending {call : String → Event} {copy : Connection → Act Console Unit}
    (hcopy : ∀ db (s : Scene Console), Decides s.world.script → ∃ r events,
      Copying s.world.script.backup.1 (call db.filename) r events ∧
        copy db s = (r, (drawn s).asked events))
    (file : String) (s : Scene Console) (hdecides : Decides s.world.script) : ∃ r events t,
      (do openOther file; (connection >>= copy).ensuring (Act.event (.close file)) :
        Act Console Unit) s = (r, t) ∧
      Lending file call s r events ∧
        t.world.past = (events.map Deed.engine).reverse ++ s.world.past := by
  have hother := openOther_apply file s
  cases hopen : s.world.script.openFault? file with
  | some f =>
    cases f with
    | error e =>
      rw [hopen] at hother
      exact ⟨_, _, _, Act.bind_error hother _, .failed hopen, rfl⟩
    | interrupted =>
      rw [hopen] at hother
      exact ⟨_, _, _, Act.bind_error hother _, .stopped hopen, rfl⟩
  | none =>
    rw [hopen] at hother
    rw [Act.bind_ok hother]
    obtain ⟨r, opening, t, hconnection, hconnects, hworld, -⟩ :=
      connection_connects (s.asked [.openOther file])
    cases r with
    | error f =>
      refine ⟨_, _, _, Act.ensuring_event (Act.bind_error hconnection copy) (.close file),
        .unconnected hopen hconnects.of_asked, ?_⟩
      simp [Scene.asked, hworld]
    | ok db =>
      have hscript : t.world.script = s.world.script := by rw [hworld]; rfl
      obtain ⟨r, events, hcopying, hrun⟩ := hcopy db t (hscript ▸ hdecides)
      rw [hscript] at hcopying
      refine ⟨_, _, _, Act.ensuring_event ((Act.bind_ok hconnection copy).trans hrun) (.close file),
        .copied hopen hconnects.of_asked hcopying, ?_⟩
      simp [Scene.asked, drawn, hworld]

end Copies

private theorem ofFault_injective {f g : Engine.Fault} (h : Failure.ofFault f = .ofFault g) : f = g := by
  cases f <;> cases g <;> simp_all [Failure.ofFault]

section Verdict
variable {a : StepAnswer}

theorem verdict_ok_iff (ha : a ≠ .more) : verdict a = .ok () ↔ a = .done := by
  cases a with
  | done => simp [verdict]
  | more => exact absurd rfl ha
  | fault f => simp [verdict]

theorem verdict_busy_iff : verdict a = .error (.complaint .sourceBusy) ↔ isBusy a := by
  cases a with
  | done => simp [verdict, isBusy]
  | more => simp [verdict, isBusy]
  | fault f =>
    have hother : Failure.ofFault f ≠ .complaint .sourceBusy := by cases f <;> nofun
    simp [verdict, hother]

theorem verdict_fault_iff (f : Engine.Fault) :
    verdict a = .error (.ofFault f) ↔ a = .fault f ∧ ¬ isBusy a := by
  cases a with
  | done => simp [verdict]
  | more => simp [verdict]
  | fault g =>
    have hother : Failure.complaint .sourceBusy ≠ .ofFault f := by cases f <;> nofun
    by_cases hbusy : isBusy (.fault g)
    · simp [verdict, hbusy, hother]
    · have hsame : Failure.ofFault g = .ofFault f ↔ g = f := ⟨ofFault_injective, fun h => h ▸ rfl⟩
      simp [verdict, hbusy, hsame]

end Verdict

/-- A copy takes one step after the other until an answer decides it, sleeps once after each answer but
the deciding one that finds the database busy, of which there are three at most, and is finished
whatever the answer was: it was good, or the database stayed busy, or something else went wrong, and
that is what the copy fails with. The other database is closed behind the copy, and neither a step
nor a finish is asked for where the copy did not start. -/
theorem copy_protocol :
    (∀ answers, answers.getLast? ≠ some StepAnswer.more →
      ∃ before last, Decided answers 0 0 before last) ∧
    (∀ a, a ≠ StepAnswer.more → (verdict a = .ok () ↔ a = .done) ∧
      (verdict a = .error (.complaint .sourceBusy) ↔ isBusy a) ∧
      ∀ f, verdict a = .error (.ofFault f) ↔ a = .fault f ∧ ¬ isBusy a) ∧
    Complaint.sourceBusy.message = "source database is busy" ∧
    (∀ (target targetDb source sourceDb : String) (s : Scene Console), Decides s.world.script →
      ∃ r events t, copyDatabase target targetDb source sourceDb s = (r, t) ∧
        Copying s.world.script.backup.1 (.backup target targetDb source sourceDb) r events ∧
        t.world.past = (events.map Deed.engine).reverse ++ s.world.past) ∧
    (∀ arguments database? file (s : Scene Console),
      BackupRequest.ofArguments {} arguments = .ok ⟨database?, some file⟩ →
      Decides s.world.script → ∃ r events t, backup arguments s = (r, t) ∧
        Lending file (fun db => .backup file "main" db
          (if (database?.getD "").isEmpty then "main" else database?.getD "")) s r events ∧
        t.world.past = (events.map Deed.engine).reverse ++ s.world.past) ∧
    ∀ database file (s : Scene Console), Decides s.world.script →
      ∃ r events t, restore database file s = (r, t) ∧
        Lending file (fun db => .backup db database file "main") s r events ∧
        t.world.past = (events.map Deed.engine).reverse ++ s.world.past := by
  refine ⟨fun answers hmore => exists_decided hmore 0 (Nat.zero_le _),
    fun a ha => ⟨verdict_ok_iff ha, verdict_busy_iff, verdict_fault_iff⟩, rfl,
    fun target targetDb source sourceDb s hdecides => ?_,
    fun arguments database? file s hrequest hdecides => ?_, fun database file s hdecides => ?_⟩
  · obtain ⟨r, events, hcopying, hrun⟩ :=
      copyDatabase_copying target targetDb source sourceDb s hdecides
    exact ⟨r, events, _, hrun, hcopying, rfl⟩
  · rw [backup, hrequest]
    exact exists_lending (fun db s => copyDatabase_copying file "main" db.filename _ s) file s hdecides
  · exact exists_lending (fun db s => copyDatabase_copying db.filename database file "main" s) file s
      hdecides

/-- A console whose copies find the database busy, go on, find it locked, and are done. -/
def contended : Scene Console :=
  let busy (kind : Engine.ErrorKind) : StepAnswer := .fault (.error ⟨kind, "", none⟩)
  ⟨{ script := { backups := [.steps [busy .busy, .more, busy .locked, .done]] } }, {}⟩

theorem copy_protocol_contended :
    Decides contended.world.script ∧
    StepAnswer.done ≠ .more ∧ (verdict .done = .ok () ↔ StepAnswer.done = .done) ∧
    (∃ r events t, copyDatabase "to" "main" "from" "main" contended = (r, t) ∧
      Copying contended.world.script.backup.1 (.backup "to" "main" "from" "main") r events ∧
      t.world.past = (events.map Deed.engine).reverse) ∧
    BackupRequest.ofArguments {} ["-key", "k", "aux", "to"] = .ok ⟨some "aux", some "to"⟩ ∧
    (∃ r events t, backup ["-key", "k", "aux", "to"] contended = (r, t) ∧
      Lending "to" (fun db => .backup "to" "main" db "aux") contended r events ∧
      t.world.past = (events.map Deed.engine).reverse) ∧
    ∃ r events t, restore "aux" "from" contended = (r, t) ∧
      Lending "from" (fun db => .backup db "aux" "from" "main") contended r events ∧
      t.world.past = (events.map Deed.engine).reverse := by
  have hdecides : Decides contended.world.script := by
    intro answers hanswers
    obtain rfl : _ = answers := BackupAnswer.steps.inj hanswers
    exact copy_protocol.1 _ (by decide)
  have hrequest : BackupRequest.ofArguments {} ["-key", "k", "aux", "to"] =
      .ok ⟨some "aux", some "to"⟩ := by rfl
  obtain ⟨-, hverdict, -, hcopy, hbackup, hrestore⟩ := copy_protocol
  refine ⟨hdecides, by decide, (hverdict .done (by decide)).1, ?_, hrequest, ?_, ?_⟩
  · simpa [contended] using hcopy "to" "main" "from" "main" contended hdecides
  · simpa [contended] using hbackup _ _ _ contended hrequest hdecides
  · simpa [contended] using hrestore "aux" "from" contended hdecides

/-- Two steps are tried again, each after some time; the database that was written to is closed. -/
example : (backup ["to"] contended).2.world.events =
    [.openOther "to", .openMain ":memory:" none, .backup "to" "main" ":memory:" "main", .step 100,
      .sleep 100, .step 100, .step 100, .sleep 100, .step 100, .finish, .close "to"] := by
  decide +kernel

end SqlConsole.Console

import SqlConsole.Proofs.Console.Custody

/-! Copies of databases: the other database is closed again in any case, and not before the copy that has
been started is finished. -/
namespace SqlConsole.Console
open Act (Ensures Safe)
open Origin (Keeping)

variable {o : Origin} {session : Session} {F : Failure → Prop}

/-- The answer to the step after so many others. The last answer is given again and again. -/
private theorem mem_of_step {answers : List Engine.StepAnswer} {taken : Nat} {a : Engine.StepAnswer}
    (ha : (answers[taken]?.or answers.getLast?).getD .done = a) (hdone : a ≠ .done) : a ∈ answers := by
  cases htaken : answers[taken]? with
  | some b =>
    rw [htaken] at ha
    obtain rfl : b = a := ha
    exact List.mem_of_getElem? htaken
  | none =>
    rw [htaken, Option.none_or] at ha
    cases hlast : answers.getLast? with
    | none =>
      rw [hlast] at ha
      exact absurd ha.symm hdone
    | some b =>
      rw [hlast] at ha
      obtain rfl : b = a := ha
      exact List.mem_of_getLast? hlast

/-- Unless there is always one more step the steps come to their end: every answer but the last is given
once, and a step is tried again only so often. -/
private theorem safe_copySteps {I : Scene Console → Prop} {answers : List Engine.StepAnswer}
    (hstep : Safe I F (Act.event (.step pagesPerStep)))
    (hsleep : Safe I F (Act.event (.sleep busyMilliseconds)))
    (hfault : ∀ f, .fault f ∈ answers → F (.ofFault f)) (hbusy : F (.complaint .sourceBusy))
    (hendless : answers.getLast? = some .more → F .endless) (fuel taken retries : Nat)
    (hfuel : answers.getLast? = some .more ∨
      answers.length - taken + (busyRetries - retries) + 1 ≤ fuel) :
    Safe I F (copySteps answers fuel taken retries) := by
  induction fuel generalizing taken retries with
  | zero =>
    obtain hmore | hfuel := hfuel
    · exact .fail (hendless hmore)
    · omega
  | succ fuel ih =>
    refine .bind hstep fun _ => ?_
    generalize ha : (answers[taken]?.or answers.getLast?).getD .done = a
    cases a with
    | done => exact .pure ()
    | more =>
      refine ih _ _ ?_
      by_cases hmore : answers.getLast? = some .more
      · exact .inl hmore
      · have hlt : taken < answers.length := by
          by_contra hge
          rw [List.getElem?_eq_none (Nat.le_of_not_lt hge), Option.none_or] at ha
          cases hlast : answers.getLast? with
          | none => simp [hlast] at ha
          | some b => simp_all
        have hbound := hfuel.resolve_left hmore
        exact .inr (by omega)
    | fault f =>
      have hf := hfault f (mem_of_step ha nofun)
      cases f with
      | interrupted => exact .fail hf
      | error e =>
        dsimp only
        split
        · split
          · refine .bind hsleep fun _ => ih _ _ (hfuel.imp_right fun hfuel => ?_)
            omega
          · exact .fail hbusy
        · exact .fail hf

/-- Some copy always has one more step. -/
def NeverDone (script : Engine.Script) : Prop :=
  ∃ answers, .steps answers ∈ script.backups ∧ answers.getLast? = some .more

theorem openOther_apply (file : String) (s : Scene Console) :
    openOther file s = (match s.world.script.openFault? file with
      | some (.error _) => Act.complain (.cannotOpen file)
      | some .interrupted => Act.fail .interrupted
      | none => pure () : Act Console Unit)
        { s with world := { s.world with past := .engine (.openOther file) :: s.world.past } } := rfl

theorem ensures_openOther (hF : ∀ f, o.Expects f → F f) (file : String) :
    Ensures (o.RestsWith [] none session) (openOther file)
      (fun _ => o.RestsWith [] (some file) session)
      (fun f s => o.Rests session s ∧ F f) := by
  refine Origin.ensures_resting fun db copies => ?_
  rintro s ⟨hown, hs⟩
  let w : World := { s.world with past := .engine (.openOther file) :: s.world.past }
  have hfault := hs.script.openFault?_eq file
  rw [openOther_apply]
  cases hopen : s.world.script.openFault? file with
  | none =>
    have hevent : (Links.of db none copies).after o.script (.openOther file) =
        some (Links.of db (some file) copies) := by
      simp [Links.after, Links.of, ← hfault, hopen]
    exact Origin.At.rests ⟨hown, hs.event hevent rfl⟩
  | some f =>
    have hevent : (Links.of db none copies).after o.script (.openOther file) =
        some (Links.of db none copies) := by
      simp [Links.after, Links.of, ← hfault, hopen]
    have hrests : o.Rests session ⟨w, s.own⟩ := Origin.At.rests ⟨hown, hs.event hevent rfl⟩
    cases f with
    | error e => exact ⟨hrests, hF _ (Origin.expects_complaint _)⟩
    | interrupted =>
      have hmem := hs.script.faults (Engine.Script.mem_faults_of_open _ hopen)
      exact ⟨hrests, hF _ (Origin.expects_ofFault hmem)⟩

section Copies
variable (hF : ∀ f, o.Expects f → F f) (hendless : NeverDone o.script → F .endless)
include hF hendless

omit hendless in
/-- A copy that has started is finished, however its steps go. -/
private theorem ensures_started {db : Connection} {copies : List Engine.BackupAnswer} {file : String}
    {answers : List Engine.StepAnswer} (hfault : ∀ f, .fault f ∈ answers → F (.ofFault f))
    (hmore : answers.getLast? = some .more → F .endless) :
    Ensures
      (o.At session.held { Links.of (some db) (some file) copies with copying := true }
        (Keeping session (some db)))
      ((copySteps answers (answers.length + busyRetries + 1) 0 0).ensuring (Act.event .finish))
      (fun _ => o.RestsWith [] (some file) session)
      (fun f s => o.RestsWith [] (some file) session s ∧ F f) := by
  have hfinish (E : Failure → Scene Console → Prop) : Ensures
      (o.At session.held { Links.of (some db) (some file) copies with copying := true }
        (Keeping session (some db)))
      (Act.event .finish : Act Console Unit) (fun _ => o.RestsWith [] (some file) session) E := by
    rintro s ⟨hown, hs⟩
    have hevent : Links.after o.script
        { Links.of (some db) (some file) copies with copying := true } .finish =
        some (.of (some db) (some file) copies) := rfl
    exact Origin.At.rests ⟨hown, hs.event hevent rfl⟩
  refine .ensuring (safe_copySteps (Origin.safe_event rfl) (Origin.safe_event rfl) hfault
    (hF _ (Origin.expects_complaint _)) hmore _ 0 0 (.inr (by omega))) (fun _ => hfinish _) fun f s hs => ?_
  exact (hfinish (fun f s => o.RestsWith [] (some file) session s ∧ F f) s hs.1).mono
    (fun _ _ h => ⟨h, hs.2⟩) fun _ _ h => h

omit hF hendless in
private theorem copyDatabase_apply (target targetDb source sourceDb : String) (s : Scene Console) :
    copyDatabase target targetDb source sourceDb s = (match s.world.script.backup.1 with
      | .refused f => Act.fail (.ofFault f)
      | .steps answers =>
        (copySteps answers (answers.length + busyRetries + 1) 0 0).ensuring (Act.event .finish) :
      Act Console Unit) { s with world := { s.world with
        past := .engine (.backup target targetDb source sourceDb) :: s.world.past
        script := s.world.script.backup.2 } } := rfl

/-- A copy between the console's database and the other one, which both stay open. -/
theorem ensures_copyDatabase {db : Connection} {copies : List Engine.BackupAnswer}
    {file target source : String} (targetDb sourceDb : String)
    (hjoins : (Links.of (some db) (some file) copies).Joins target source) :
    Ensures (o.At session.held (.of (some db) (some file) copies) (Keeping session (some db)))
      (copyDatabase target targetDb source sourceDb)
      (fun _ => o.RestsWith [] (some file) session)
      (fun f s => o.RestsWith [] (some file) session s ∧ F f) := by
  rintro s ⟨hown, hs⟩
  have hfault {b : Engine.BackupAnswer} {f : Engine.Fault} (hb : b ∈ s.world.script.backups)
      (hf : f ∈ b.faults) : F (.ofFault f) :=
    hF _ (Origin.expects_ofFault (hs.script.faults (Engine.Script.mem_faults_of_backup _ hb hf)))
  have hevent {links' : Links} (hbegun : (Links.of (some db) (some file) copies).begun = links') :
      (Links.of (some db) (some file) copies).after o.script
        (.backup target targetDb source sourceDb) = some links' := by
    rw [Links.after, if_pos ⟨hjoins, rfl⟩, hbegun]
  have hcopies : s.world.script.backups = copies := hs.copies
  rw [copyDatabase_apply]
  rcases copies with _ | ⟨f | answers, rest⟩
  · have hbackup : s.world.script.backup.1 = .steps [.done] := by
      rw [Engine.Script.backup, hcopies]
    have hrest : s.world.script.backup.2.backups = [] := by
      rw [Engine.Script.backup, hcopies]
      exact hcopies
    rw [hbackup]
    exact ensures_started hF (by simp) (by simp) _ ⟨hown, hs.backedUp (hevent rfl) hrest⟩
  · have hbackup : s.world.script.backup.1 = .refused f := by
      rw [Engine.Script.backup, hcopies]
    have hmem : .refused f ∈ s.world.script.backups := hcopies ▸ List.mem_cons_self
    have hrest : s.world.script.backup.2.backups = rest := by
      rw [Engine.Script.backup, hcopies]
    rw [hbackup]
    exact ⟨Origin.At.rests ⟨hown, hs.backedUp (hevent rfl) hrest⟩, hfault hmem List.mem_cons_self⟩
  · have hbackup : s.world.script.backup.1 = .steps answers := by
      rw [Engine.Script.backup, hcopies]
    have hmem : .steps answers ∈ s.world.script.backups := hcopies ▸ List.mem_cons_self
    have hrest : s.world.script.backup.2.backups = rest := by
      rw [Engine.Script.backup, hcopies]
    rw [hbackup]
    refine ensures_started hF (fun f hf => ?_) (fun hmore => ?_) _
      ⟨hown, hs.backedUp (hevent rfl) hrest⟩
    · exact hfault hmem (List.mem_filterMap.2 ⟨_, hf, rfl⟩)
    · exact hendless ⟨answers, hs.script.backups hmem, hmore⟩

omit hendless in
/-- The other database is closed again, whatever was done while it was open. -/
private theorem safe_lent {file : String} {body : Connection → Act Console Unit}
    (hbody : ∀ db copies, Ensures
      (o.At session.held (.of (some db) (some file) copies) (Keeping session (some db))) (body db)
      (fun _ => o.RestsWith [] (some file) session)
      (fun f s => o.RestsWith [] (some file) session s ∧ F f)) :
    Safe (o.Rests session) F (do
      openOther file
      (do
        let db ← connection
        body db).ensuring (Act.event (.close file))) := by
  have hclose (E : Failure → Scene Console → Prop) : Ensures (o.RestsWith [] (some file) session)
      (Act.event (.close file) : Act Console Unit) (fun _ => o.Rests session) E := by
    refine Origin.ensures_resting fun db copies => ?_
    rintro s ⟨hown, hs⟩
    have hevent : (Links.of db (some file) copies).after o.script (.close file) =
        some (.of db none copies) := if_pos rfl
    exact Origin.At.rests ⟨hown, hs.event hevent rfl⟩
  have hconnected : Ensures (o.RestsWith [] (some file) session)
      (do
        let db ← connection
        body db)
      (fun _ => o.RestsWith [] (some file) session)
      (fun f s => o.RestsWith [] (some file) session s ∧ F f) :=
    .bind (ensures_connection hF) fun db => Origin.ensures_connected fun copies => hbody db copies
  refine Ensures.bind (ensures_openOther hF file) fun _ =>
    .ensuring hconnected (fun _ => hclose _) fun f s hs => ?_
  exact (hclose (fun f s => o.Rests session s ∧ F f) s hs.1).mono (fun _ _ h => ⟨h, hs.2⟩) fun _ _ h => h

theorem safe_backup (arguments : List String) : Safe (o.Rests session) F (backup arguments) := by
  unfold backup
  split
  · exact .fail (hF _ (Origin.expects_complaint _))
  · exact .fail (hF _ (Origin.expects_complaint _))
  · exact safe_lent hF fun db copies => ensures_copyDatabase hF hendless _ _ (.inr ⟨rfl, rfl⟩)

theorem safe_restore (database file : String) : Safe (o.Rests session) F (restore database file) :=
  safe_lent hF fun _ _ => ensures_copyDatabase hF hendless _ _ (.inl ⟨rfl, rfl⟩)

end Copies

end SqlConsole.Console

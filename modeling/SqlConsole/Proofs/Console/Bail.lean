import SqlConsole.Proofs.Console.Visit
import SqlConsole.Proofs.World.Sinks

/-! What ends an input that is not interactive before its end, and how an error ends all the inputs that
are being read. -/
namespace SqlConsole.Console

variable {p q : Place} {l : List Turn} {s s' : Scene Console}

/-- The session says that an error ends input. -/
def bails (s : Scene Console) : Bool := s.own.session.settings.bail

/-! Errors are counted as they come. -/

theorem Step.errors_iff {done? : Option (Job × Outcome)} (h : Step p done? q) :
    q.reading.errors ≠ 0 ↔ p.reading.errors ≠ 0 ∨ ∃ j, done? = some (j, .error) := by
  cases h with
  | @rest text _ r _ _ hplan =>
    have hsame := p.continues_plan text
    rw [hplan] at hsame
    simp [Place.onward, hsame.1]
  | @done j r _ o _ _ hasks =>
    have hsame := hasks.continues
    cases o <;> simp [Place.onward, Reading.after, hsame.1]
  | broken => simp [Place.onward, Reading.drop]
  | interrupted => simp [Place.onward, Reading.clear]

theorem Course.errors_iff (h : Course p l q) :
    q.reading.errors ≠ 0 ↔ p.reading.errors ≠ 0 ∨ ∃ t ∈ l, t.Failed := by
  induction h with
  | here => simp
  | step hstep _ ih =>
    rw [ih, hstep.errors_iff, or_assoc]
    simp [Turn.Failed]

/-! Input that is not interactive. -/

theorem Place.ready_of_isReady (hp : p.interactive = false) (h : p.IsReady s) :
    Ready p.reading.errors p.scene ∧ s = p.scene := by
  unfold Place.IsReady at h
  rw [hp] at h
  by_cases hready : Ready p.reading.errors p.scene
  · rw [isReady_of_ready hready] at h
    cases h
    exact ⟨hready, rfl⟩
  · rw [isReady_of_not_ready hready] at h
    cases h

theorem Place.isDone_iff (hp : p.interactive = false) :
    p.IsDone ↔ ¬ Ready p.reading.errors p.scene := by
  unfold Place.IsDone
  rw [hp]
  by_cases hready : Ready p.reading.errors p.scene
  · rw [isReady_of_ready hready]
    simp [hready]
  · rw [isReady_of_not_ready hready]
    simp [hready]

/-- At a place where a job is done reading is ready in its scene. -/
theorem Place.Asks.ready {j : Job} {r : Reading} {rest : Input} (h : p.Asks j r rest s)
    (hp : p.interactive = false) : Ready p.reading.errors p.scene ∧ s = p.scene := by
  obtain ⟨text, hmeets, -⟩ := h.meets
  exact Place.ready_of_isReady hp hmeets.ready

theorem conclude_of_error {r : Reading} (hbuffer : r.buffer = []) (herrors : r.errors ≠ 0) :
    conclude r s = (.ok .error, s) := by
  unfold conclude
  rw [hbuffer, if_neg herrors]
  rfl

/-- A job that fails while the session says so is the last that is done, and nothing is written about
it any more. -/
theorem Place.Does.stops {j : Job} (h : p.Does j .error s') (hp : p.interactive = false)
    (hbail : bails s') :
    p.read = (.ok .error, s') ∧ ∃ q, Step p (some (j, .error)) q ∧ q.scene = s' ∧ q.IsDone := by
  obtain ⟨r, rest, s, hasks, hjob⟩ := h
  have hstep := Step.done hasks hjob (by decide)
  have hdone : ¬ Ready (r.after .error).2.errors s' := by
    rintro ⟨herrors | hoff, -⟩
    · cases herrors
    · rw [bails, hoff] at hbail
      cases hbail
  have hready := isReady_of_not_ready hdone
  have hread : (p.onward rest (r.after .error).2 s').read = conclude (r.after .error).2 s' := by
    apply Closes.read_eq
    apply Closes.halted
    rwa [show Place.interactive _ = _ from hstep.frame.2.1.trans hp]
  refine ⟨?_, _, hstep, rfl, ?_⟩
  · rw [hstep.read_eq, hread]
    exact conclude_of_error hasks.continues.2.2.1 (Nat.succ_ne_zero _)
  · exact (Place.isDone_iff (hstep.frame.2.1.trans hp)).2 hdone

/-- When a job fails while the session says that an error ends input, nothing more is read of the input
that it is from, nor of any input that is read meanwhile: each of them is an error, in the scene that
the job has led to. -/
theorem Visits.bail_stops {trail : List Nat} {j : Job} (h : Visits p trail q)
    (hdoes : q.Does j .error s') (hbail : bails s') (hp : p.interactive = false) :
    p.read = (.ok .error, s') ∧ ∃ l p', Course p l p' ∧ p'.scene = s' ∧ p'.IsDone := by
  induction h with
  | here p =>
    obtain ⟨hread, q, hstep, hscene, hdone⟩ := hdoes.stops hp hbail
    exact ⟨hread, _, q, .step hstep (.here q), hscene, hdone⟩
  | step hstep _ ih =>
    obtain ⟨hread, l, p', hcourse, hrest⟩ := ih hdoes (hstep.frame.2.1.trans hp)
    exact ⟨hstep.read_eq.trans hread, _, p', .step hstep hcourse, hrest⟩
  | opened hopens _ ih =>
    obtain ⟨hread, -⟩ := ih hdoes hopens.interactive_eq
    obtain ⟨j', hline⟩ := hopens.does hread
    obtain ⟨hread', q', hstep, hscene, hdone⟩ := hline.stops hp hbail
    exact ⟨hread', _, q', .step hstep (.here q'), hscene, hdone⟩

/-- A session in which an error ends input, and a file of two lines, the first of which is an error. -/
def failingFile : Scene Console where
  world := { files := { contents := [(["tmp", "work", "f"], Text.utf8 ".frob\n.print y\n".toList)] } }
  own := { session := { settings := { bail := true } } }

def failingSource : Source := { path := ["tmp", "work", "f"], reader := { ends := .unified } }

private theorem meets_failingFile :
    ∃ rest, (Place.opened 328 failingSource failingFile).Meets ".frob\n".toList rest failingFile := by
  have hline : failingSource.reader.line? (Text.utf8 ".frob\n.print y\n".toList) =
      some (".frob\n".toList,
        { failingSource.reader with passed := 15, ahead := ".print y\n".toList }) := by
    show Text.Reader.lineFrom? _ (46 :: Text.utf8 "frob\n.print y\n".toList) = _
    unfold Text.Reader.lineFrom?
    rfl
  have hinput : (Place.opened 328 failingSource failingFile).input =
      .file (15 + 99999 + 1) failingSource := by
    have hbytes : ((failingFile.world.files.content? failingSource.path).getD []).length = 15 := by
      decide
    show Input.file _ _ = _
    rw [hbytes]
    rfl
  have hfetch : (Input.file (15 + 99999 + 1) failingSource).fetch failingFile.world = _ :=
    Input.fetch_file hline
  rw [← hinput] at hfetch
  exact ⟨_, isReady_of_ready ⟨.inl rfl, rfl⟩, hfetch⟩

/-- The first line of the file ends the file and the input that asked for it: neither of the texts is
printed. -/
theorem bail_stops_file :
    let p : Place := .start false (inputOfText ".read f\n.print x\n".toList) failingFile
    let q : Place := .opened 328 failingSource failingFile
    ∃ s', Visits p [0] q ∧ q.Does (.command ".frob".toList) .error s' ∧ bails s' ∧
      q.read = (.ok .error, s') ∧ p.read = (.ok .error, s') ∧ s'.world.written .stdout = [] := by
  intro p q
  have hread : p.Asks (.command ".read f".toList) { lines := 1 }
      (.items false [.line ".print x\n".toList]) failingFile :=
    ⟨".read f\n".toList, ⟨isReady_of_ready ⟨.inl rfl, rfl⟩, rfl⟩, rfl⟩
  have hrequests : Requests ".read f".toList failingFile failingSource failingFile :=
    ⟨"read", ["f"], rfl, rfl, rfl⟩
  have hvisits : Visits p [0] q := .opened (.mk hread hrequests rfl) (.here q)
  obtain ⟨rest, hmeets⟩ := meets_failingFile
  have hfrob : q.Asks (.command ".frob".toList) { lines := 1 } rest failingFile := ⟨_, hmeets, rfl⟩
  obtain ⟨s', hjob, hbail, hout⟩ :
      ∃ s', (Job.command ".frob".toList).perform q.feed failingFile = (.ok .error, s') ∧ bails s' ∧
        s'.world.written .stdout = [] := ⟨_, rfl, rfl, rfl⟩
  have hdoes : q.Does (.command ".frob".toList) .error s' := ⟨_, rest, failingFile, hfrob, hjob⟩
  have hfile := (Visits.here q).bail_stops hdoes hbail rfl
  have hall := hvisits.bail_stops hdoes hbail rfl
  exact ⟨s', hvisits, hdoes, hbail, hfile.1, hall.1, hout⟩

/-- Why reading comes to its end at `q`, behind these turns. -/
inductive Reason (l : List Turn) (q : Place) : Prop where
  /-- There is nothing left to read. -/
  | exhausted {s : Scene Console} (hready : q.IsReady s) (h : q.input.fetch s.world = .nothing)
  /-- The next line is a dot command that asks to read no more. -/
  | stopped {line : List Char} {s : Scene Console} (h : q.Does (.command line) .stop s)
  /-- The user has stopped the input. -/
  | interrupted (h : q.scene.own.interrupted = true)
  /-- The last line was an error, and the session says that an error ends input. -/
  | failed {before : List Turn} {t : Turn} (hl : l = before ++ [t]) (h : t.Failed) (hbail : bails q.scene)
  /-- An earlier line was an error that was let pass, and the last line made the session say that an
  error ends input. -/
  | belated {before : List Turn} {t : Turn} {j : Job} (hl : l = before ++ [t])
      (h : t.done? = some (j, .success)) (hearlier : ∃ t ∈ before, t.Failed)
      (hoff : bails t.place.scene = false) (hbail : bails q.scene)

/-- Input is not asked for any more where there was an error, or where the user has stopped it. -/
private theorem reason_of_halted (h : Course p l q) (hp : p.interactive = false)
    (hstart : p.reading.errors = 0) (hdone : ¬ Ready q.reading.errors q.scene) : Reason l q := by
  by_cases hi : q.scene.own.interrupted = true
  · exact .interrupted hi
  obtain ⟨herrors, hbail⟩ : q.reading.errors ≠ 0 ∧ bails q.scene = true := by
    simpa [Ready, hi, bails] using hdone
  rcases h.last with ⟨-, rfl⟩ | ⟨before, t, hl, hbefore, hstep⟩
  · exact absurd hstart herrors
  have ht : t.place.interactive = false := hbefore.interactive_eq.trans hp
  have hsame (hq : q.scene = t.place.scene) (hready : Ready t.place.reading.errors t.place.scene)
      (hlast : t.place.reading.errors ≠ 0) : False := by
    rcases hready.1 with hnone | hoff
    · exact hlast hnone
    · rw [hq, bails, hoff] at hbail
      cases hbail
  obtain ⟨p', done?⟩ := t
  have hcount := hstep.errors_iff.1 herrors
  cases hstep with
  | rest hmeets =>
    obtain ⟨hready, hscene⟩ := Place.ready_of_isReady ht hmeets.ready
    exact absurd (hcount.resolve_right (by simp)) (hsame hscene hready)
  | @done j r rest o s s' hasks =>
    obtain ⟨hready, -⟩ := hasks.ready ht
    cases o with
    | error => exact .failed hl ⟨j, rfl⟩ hbail
    | stop => contradiction
    | success =>
      have hlast : p'.reading.errors ≠ 0 := hcount.resolve_right (by simp)
      have hearlier := (hbefore.errors_iff.1 hlast).resolve_left (not_not.2 hstart)
      exact .belated hl rfl hearlier (hready.1.resolve_left hlast) hbail
  | broken => exact absurd (interrupt_eq _ _).2 hi
  | interrupted => exact absurd (interrupt_eq _ _).2 hi

/-- An input that is not interactive fails, or it ends at a place where there is a reason for that. -/
theorem Place.ends_for_reason (p : Place) (hp : p.interactive = false)
    (hstart : p.reading.errors = 0) :
    (∃ f s, p.read = (.error f, s)) ∨
      ∃ l q, Course p l q ∧ Closes q p.read ∧ Reason l q := by
  obtain ⟨l, q, hcourse, hcloses⟩ := exists_course p
  have hq : q.interactive = false := hcourse.interactive_eq.trans hp
  generalize p.read = x at hcloses
  have hreason (h : Reason l q) : ∃ l q, Course p l q ∧ Closes q x ∧ Reason l q :=
    ⟨l, q, hcourse, hcloses, h⟩
  cases hcloses with
  | halted h => exact .inr (hreason (reason_of_halted hcourse hp hstart ((isDone_iff hq).1 ⟨_, h⟩)))
  | exhausted hready hfetch => exact .inr (hreason (.exhausted hready hfetch))
  | @stopped j r rest s s' hasks hjob =>
    cases j with
    | command line => exact .inr (hreason (.stopped ⟨r, rest, s, hasks, hjob⟩))
    | sql text line? => exact absurd hjob runWhole_ne_stop
  | lost => exact .inl ⟨_, _, rfl⟩
  | unjudged => exact .inl ⟨_, _, rfl⟩
  | failed => exact .inl ⟨_, _, rfl⟩

/-- Three lines, the second of which has an error end input where the first has been one. -/
def switching : Place :=
  .start false (inputOfText ".frob\n.bail on\n.print x\n".toList) untouched

/-- Nothing fails while an error would end the input, and still its last line is not read. -/
private theorem switching_course :
    ∃ p q, Course switching [⟨switching, some (.command ".frob".toList, .error)⟩,
        ⟨p, some (.command ".bail on".toList, .success)⟩] q ∧
      bails switching.scene = false ∧ bails p.scene = false ∧ q.scene.own.interrupted = false ∧
      q.IsDone ∧ Closes q (.ok .error, q.scene) ∧
      q.input = .items false [.line ".print x\n".toList] ∧ q.scene.world.written .stdout = [] := by
  have hfirst : switching.Asks (.command ".frob".toList) { lines := 1 }
      (.items false [.line ".bail on\n".toList, .line ".print x\n".toList]) untouched :=
    ⟨".frob\n".toList, ⟨isReady_of_ready ⟨.inl rfl, rfl⟩, rfl⟩, rfl⟩
  obtain ⟨s₁, hfrob, hready, hoff, s₂, hbail, hi, hon, hout⟩ :
      ∃ s₁, (Job.command ".frob".toList).perform switching.feed untouched = (.ok .error, s₁) ∧
        Ready 1 s₁ ∧ bails s₁ = false ∧
        ∃ s₂, (Job.command ".bail on".toList).perform switching.feed s₁ = (.ok .success, s₂) ∧
          s₂.own.interrupted = false ∧ bails s₂ = true ∧ s₂.world.written .stdout = [] :=
    ⟨_, rfl, ⟨.inr rfl, rfl⟩, rfl, _, rfl, rfl, rfl, rfl⟩
  let p : Place := switching.onward
    (.items false [.line ".bail on\n".toList, .line ".print x\n".toList])
    { lines := 1, errors := 1 } s₁
  have hsecond : p.Asks (.command ".bail on".toList) { lines := 2, errors := 1 }
      (.items false [.line ".print x\n".toList]) s₁ :=
    ⟨".bail on\n".toList, ⟨isReady_of_ready hready, rfl⟩, rfl⟩
  let q : Place := p.onward (.items false [.line ".print x\n".toList]) { lines := 2, errors := 1 } s₂
  have hdone : isReady false q.reading s₂ = (.ok false, s₂) := by
    refine isReady_of_not_ready ?_
    rintro ⟨hnone | hoff, -⟩
    · cases hnone
    · exact absurd (hon.symm.trans hoff) (by decide)
  have hstep : Step switching _ p := .done hfirst hfrob (by decide)
  have hstep' : Step p _ q := .done hsecond hbail (by decide)
  exact ⟨p, q, .step hstep (.step hstep' (.here q)), rfl, hoff, hi, ⟨s₂, hdone⟩, .halted hdone, rfl,
    hout⟩

/-- It ends for a reason, though a late one. -/
theorem ends_for_reason_belated :
    switching.interactive = false ∧ switching.reading.errors = 0 ∧
      ∃ l q, Course switching l q ∧ Closes q switching.read ∧ Reason l q := by
  obtain ⟨p, q, hcourse, -, -, -, -, hcloses, -⟩ := switching_course
  refine ⟨rfl, rfl, (switching.ends_for_reason rfl rfl).resolve_left ?_⟩
  rintro ⟨f, s, hfails⟩
  rw [hcourse.read_eq, hcloses.read_eq] at hfails
  cases hfails

/-- An error that was let pass ends the input later, when another line has made errors end input. -/
theorem readInput_skips :
    ∃ p q, Course switching [⟨switching, some (.command ".frob".toList, .error)⟩,
        ⟨p, some (.command ".bail on".toList, .success)⟩] q ∧
      bails switching.scene = false ∧ bails p.scene = false ∧ q.scene.own.interrupted = false ∧
      q.IsDone ∧ q.input = .items false [.line ".print x\n".toList] ∧
      readInput false (inputOfText ".frob\n.bail on\n.print x\n".toList) untouched =
        (.ok .error, q.scene) ∧ q.scene.world.written .stdout = [] := by
  obtain ⟨p, q, hcourse, hoff, hoff', hi, hdone, hcloses, hinput, hout⟩ := switching_course
  have hread : switching.read = (.ok .error, q.scene) := hcourse.read_eq.trans hcloses.read_eq
  have hinput' := (Place.read_start ..).symm.trans hread
  exact ⟨p, q, hcourse, hoff, hoff', hi, hdone, hinput, hinput', hout⟩

end SqlConsole.Console

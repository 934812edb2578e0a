import SqlConsole.Proofs.Console.Bail
import SqlConsole.Proofs.Console.Oblivious
import SqlConsole.Proofs.World.Ledger

/-! The same is done with an input whether it is interactive or not, if nothing ends it early. What
differs are the texts that are shown, and the lines that errors tell. -/
namespace SqlConsole

namespace Console
open Act (Agrees Oblivious)
open Scene (Twins)

variable {interactive interactive' : Bool} {T T' : List Deed → List Deed → Prop} {p p' q : Place}
  {s s' : Scene Console}

/-- Text is shown if the input is interactive. -/
def shownDeeds (interactive : Bool) (text : String) : List Deed :=
  if interactive then [.wrote .stdout text] else []

/-- What is done with an input that may be interactive or not. -/
inductive Entry where
  | deed (d : Deed)
  | shown (text : String)
  /-- The engine's error in SQL text that starts on the line. -/
  | sqlError (line : Int) (e : Engine.Error)

namespace Entry

def deeds (interactive : Bool) : Entry → List Deed
  | deed d => [d]
  | shown text => shownDeeds interactive text
  | sqlError line e => [.wrote .stderr (errorText (toldLine interactive line) e)]

def shown? : Entry → Option String
  | shown text => some text
  | _ => none

/-- The difference is in what is written to the user. -/
theorem filterMap_deeds {α : Type} {f : Deed → Option α} (hout : ∀ text, f (.wrote .stdout text) = none)
    (herr : ∀ text, f (.wrote .stderr text) = none) (entries : List Entry) :
    (entries.flatMap (deeds interactive)).filterMap f =
      (entries.flatMap (deeds interactive')).filterMap f := by
  have hentry (entry : Entry) :
      (entry.deeds interactive).filterMap f = (entry.deeds interactive').filterMap f := by
    cases entry with
    | deed d => rfl
    | shown text => cases interactive <;> cases interactive' <;> simp [deeds, shownDeeds, hout]
    | sqlError line e => simp [deeds, herr]
  induction entries with
  | nil => rfl
  | cons entry entries ih =>
    rw [List.flatMap_cons, List.flatMap_cons, List.filterMap_append, List.filterMap_append, hentry, ih]

end Entry

/-! Relations of the pasts of two readings. -/

/-- The relation lasts, also where SQL text fails. -/
structure Bearing (interactive interactive' : Bool) (T : List Deed → List Deed → Prop) : Prop where
  lasts : Lasting T
  errors : ∀ line e past past', T past past' →
    T (.wrote .stderr (errorText (toldLine interactive line) e) :: past)
      (.wrote .stderr (errorText (toldLine interactive' line) e) :: past')

theorem Bearing.same (hT : Lasting T) : Bearing interactive interactive T :=
  ⟨hT, fun _ _ _ _ h => hT _ _ _ h⟩

/-- The engine was asked for the same things. -/
def Concurs (past past' : List Deed) : Prop := past.filterMap Deed.event? = past'.filterMap Deed.event?

namespace Concurs

protected theorem symm {past past' : List Deed} (h : Concurs past past') : Concurs past' past := Eq.symm h

theorem lasting : Lasting Concurs := by
  intro d past past' h
  unfold Concurs at h ⊢
  rw [List.filterMap_cons, List.filterMap_cons, h]

theorem bearing : Bearing interactive interactive' Concurs := ⟨lasting, fun _ _ _ _ h => h⟩

theorem shows {past past' : List Deed} (h : Concurs past past') (text : String) :
    Concurs (shownDeeds interactive text ++ past) (shownDeeds interactive' text ++ past') := by
  cases interactive <;> cases interactive' <;> exact h

end Concurs

/-- The pasts have come with the same entries from the same start. -/
def Transcript (interactive interactive' : Bool) (start : List Deed) (shown : List String)
    (past past' : List Deed) : Prop :=
  ∃ entries : List Entry, entries.filterMap Entry.shown? = shown ∧
    past = entries.flatMap (Entry.deeds interactive) ++ start ∧
    past' = entries.flatMap (Entry.deeds interactive') ++ start

namespace Transcript
variable {start past past' : List Deed} {shown : List String}

theorem bearing : Bearing interactive interactive' (Transcript interactive interactive' start shown) where
  lasts d _ _ := by
    rintro ⟨entries, hshown, rfl, rfl⟩
    exact ⟨.deed d :: entries, hshown, rfl, rfl⟩
  errors line e _ _ := by
    rintro ⟨entries, hshown, rfl, rfl⟩
    exact ⟨.sqlError line e :: entries, hshown, rfl, rfl⟩

theorem shows (h : Transcript interactive interactive' start shown past past') (text : String) :
    Transcript interactive interactive' start (text :: shown) (shownDeeds interactive text ++ past)
      (shownDeeds interactive' text ++ past') := by
  obtain ⟨entries, rfl, rfl, rfl⟩ := h
  refine ⟨.shown text :: entries, rfl, ?_, ?_⟩
  · rw [List.flatMap_cons, List.append_assoc]
    rfl
  · rw [List.flatMap_cons, List.append_assoc]
    rfl

theorem filterMap_eq {α : Type} {f : Deed → Option α}
    (h : Transcript interactive interactive' start shown past past')
    (hout : ∀ text, f (.wrote .stdout text) = none) (herr : ∀ text, f (.wrote .stderr text) = none) :
    past'.filterMap f = past.filterMap f := by
  obtain ⟨entries, rfl, rfl, rfl⟩ := h
  rw [List.filterMap_append, List.filterMap_append, Entry.filterMap_deeds hout herr]

end Transcript

theorem twins_shows {text : String} (h : Twins T s s')
    (hT : T' (shownDeeds interactive text ++ s.world.past)
      (shownDeeds interactive' text ++ s'.world.past)) :
    Twins T' (s.withPast (shownDeeds interactive text ++ s.world.past))
      (s'.withPast (shownDeeds interactive' text ++ s'.world.past)) := by
  cases h
  exact .mk _ hT

/-- Both do the same job. -/
theorem Job.Alike.agrees {feed : Source → Act Console Outcome} {j j' : Job}
    (h : Job.Alike interactive interactive' j j') (hT : Bearing interactive interactive' T)
    (hfeed : ∀ source, Oblivious (feed source)) :
    Agrees (Twins T) (j.perform feed) (j'.perform feed) := by
  cases h with
  | command line => exact (oblivious_commandLine hfeed line).agrees hT.lasts
  | sql text line => exact (agrees_runSql hT.lasts (hT.errors line) text).bind fun _ => .pure _

/-- An interrupt says so to the user of an interactive input. -/
theorem agrees_interrupt : Agrees (Twins Concurs) (interrupt interactive) (interrupt interactive') := by
  have hmark : Agrees (Twins Concurs) (if interactive then writeError "^C\n" else pure ())
      (if interactive' then writeError "^C\n" else pure ()) := by
    intro s t h
    cases h with
    | mk past h => cases interactive <;> cases interactive' <;> exact ⟨rfl, .mk _ h⟩
  refine ((Oblivious.modifyOwn _).agrees Concurs.lasting).bind fun _ => ?_
  refine (Oblivious.own.agrees Concurs.lasting).bind fun c => ?_
  cases c.db.isSome with
  | true => exact ((Oblivious.event _).agrees Concurs.lasting).bind fun _ => hmark
  | false => exact hmark

/-! Two inputs, one of which may be interactive. -/

/-- The input, interactive or not, if it can be. -/
def Input.as (interactive : Bool) : Input → Input
  | items _ l => items interactive l
  | file fuel source => file fuel source

def Fetched.as (interactive : Bool) : Fetched → Fetched
  | line text rest => line text (rest.as interactive)
  | interrupt rest => interrupt (rest.as interactive)
  | nothing => nothing
  | failed f => failed f

theorem Input.fetch_past (input : Input) (w : World) (past : List Deed) :
    input.fetch { w with past } = input.fetch w := rfl

theorem Input.fetch_as (input : Input) (interactive : Bool) (w : World) :
    (input.as interactive).fetch w = (input.fetch w).as interactive := by
  cases input with
  | items _ l =>
    cases l with
    | nil => rfl
    | cons item l =>
      cases item with
      | interrupt => rfl
      | line text => cases text <;> rfl
  | file fuel source =>
    cases fuel with
    | zero => rfl
    | succ fuel =>
      simp only [Input.as, Input.fetch]
      rcases source.reader.line? ((w.files.content? source.path).getD []) with _ | ⟨_ | _, _⟩ <;> rfl

/-- The places are the same but for their scenes and for whether their inputs are interactive. -/
structure Level (p p' : Place) : Prop where
  depth : p'.depth = p.depth
  input : ∃ interactive, p'.input = p.input.as interactive
  reading : p'.reading = p.reading

theorem Level.onward (h : Level p p') (interactive : Bool) (rest : Input) (r : Reading)
    (s s' : Scene Console) : Level (p.onward rest r s) (p'.onward (rest.as interactive) r s') :=
  ⟨h.depth, ⟨interactive, rfl⟩, rfl⟩

/-- The scenes of the places are the same but for the pasts, which `T` relates. -/
structure Paired (T : List Deed → List Deed → Prop) (p p' : Place) : Prop extends Level p p' where
  scene : Twins T p.scene p'.scene

theorem Paired.symm (h : Paired T p p') (hT : ∀ past past', T past past' → T past' past) :
    Paired T p' p := by
  obtain ⟨⟨hdepth, ⟨interactive, hinput⟩, hreading⟩, hscene⟩ := h
  refine ⟨⟨hdepth.symm, ⟨p.interactive, ?_⟩, hreading.symm⟩, ?_⟩
  · rw [hinput]
    unfold Place.interactive
    cases p.input <;> rfl
  · rw [hscene.eq_withPast]
    exact .mk p.scene.world.past (hT _ _ hscene.past)

/-- Places that are paired again once both have been asked whether to read on. -/
structure Abreast (T : List Deed → List Deed → Prop) (p p' : Place) : Prop extends Level p p' where
  bearing : Bearing p.interactive p'.interactive T
  ready : ∀ s, p.IsReady s → ∃ s', p'.IsReady s' ∧ Twins T s s'

/-- Errors do not end an input, nor has the user interrupted one. -/
structure IsCalm (s : Scene Console) : Prop where
  bails : bails s = false
  interrupted : s.own.interrupted = false

/-- The scene is calm wherever reading comes to in the input. -/
def Place.StaysCalm (p : Place) : Prop := ∀ l q, Course p l q → IsCalm q.scene

theorem Place.StaysCalm.step {done? : Option (Job × Outcome)} (h : p.StaysCalm) (hstep : Step p done? q) :
    q.StaysCalm := fun _ _ hcourse => h _ _ (.step hstep hcourse)

/-- A line that does its job keeps calm, if what comes after it does. -/
theorem Place.StaysCalm.of_asks {j : Job} {r : Reading} {rest : Input} {o : Outcome} (h : IsCalm p.scene)
    (hasks : p.Asks j r rest s) (hjob : j.perform p.feed s = (.ok o, s'))
    (hrest : (p.onward rest (r.after o).2 s').StaysCalm) : p.StaysCalm := by
  intro l q hcourse
  cases hcourse with
  | here => exact h
  | step hstep hcourse =>
    rcases hstep.of_asks hasks with ⟨o', s₁, hjob', -, rfl⟩ | ⟨s₁, hbroken, -⟩
    · cases hjob.symm.trans hjob'
      exact hrest _ _ hcourse
    · cases hjob.symm.trans hbroken

theorem Place.StaysCalm.of_size (h : IsCalm p.scene) (hsize : p.input.size = 0) : p.StaysCalm := by
  intro l q hcourse
  cases hcourse with
  | here => exact h
  | step hstep =>
    have hless := hstep.frame.2.2
    omega

/-- The prompt for the next line. -/
def Place.prompt (p : Place) : String :=
  let settings := p.scene.own.session.settings
  if p.reading.buffer.isEmpty then settings.mainPrompt else settings.continuePrompt

theorem Place.isReady_of_calm (p : Place) (h : IsCalm p.scene) :
    isReady p.interactive p.reading p.scene =
      (.ok true, p.scene.withPast (shownDeeds p.interactive p.prompt ++ p.scene.world.past)) := by
  obtain ⟨depth, input, r, w, c⟩ := p
  obtain ⟨hbails, hi⟩ := h
  have hoff : c.session.settings.bail = false := hbails
  have hsame : { c with interrupted := false } = c := by
    rw [← show c.interrupted = false from hi]
  unfold isReady
  rw [Act.bind_ok (show Act.own ⟨w, c⟩ = (.ok c, ⟨w, c⟩) from rfl)]
  dsimp only
  rw [if_neg (by simp [hoff]), if_neg (by simp [show c.interrupted = false from hi])]
  rw [Act.bind_ok (show Act.modifyOwn _ ⟨w, c⟩ = (.ok (), ⟨w, c⟩) from
    congrArg (fun c => (Except.ok (), (⟨w, c⟩ : Scene Console))) hsame)]
  unfold Place.interactive shownDeeds Place.prompt
  cases input.interactive with
  | false => rfl
  | true =>
    show (_, Scene.withPast ⟨w, c⟩ (.wrote .stdout (String.ofList (String.toList _)) :: w.past)) = _
    rw [String.ofList_toList]
    rfl

namespace Paired

theorem abreast_of_same (h : Paired T p p') (hmode : p'.interactive = p.interactive)
    (hT : Lasting T) : Abreast T p p' := by
  constructor
  · exact h.toLevel
  · rw [hmode]
    exact .same hT
  · intro s hready
    unfold Place.IsReady
    rw [hmode, h.reading]
    exact ((oblivious_isReady p.interactive p.reading).agrees hT).ends h.scene hready

theorem abreast_of_calm (h : Paired T p p') (hcalm : IsCalm p.scene)
    (hT : Bearing p.interactive p'.interactive T')
    (hshows : ∀ past past', T past past' →
      T' (shownDeeds p.interactive p.prompt ++ past) (shownDeeds p'.interactive p.prompt ++ past')) :
    Abreast T' p p' := by
  have hcalm' : IsCalm p'.scene := by
    constructor
    · rw [bails, h.scene.own]
      exact hcalm.bails
    · rw [h.scene.own]
      exact hcalm.interrupted
  have hprompt : p'.prompt = p.prompt := by
    unfold Place.prompt
    rw [h.reading, h.scene.own]
  constructor
  · exact h.toLevel
  · exact hT
  · intro s hready
    have hready' := p'.isReady_of_calm hcalm'
    rw [hprompt] at hready'
    obtain rfl := hready.unique (p.isReady_of_calm hcalm)
    exact ⟨_, hready', twins_shows h.scene (hshows _ _ h.scene.past)⟩

end Paired

namespace Abreast
variable {text : List Char} {rest : Input} {j : Job} {r : Reading}

theorem fetch (h : Abreast T p p') (hready : p.IsReady s) :
    ∃ interactive s', p'.IsReady s' ∧ Twins T s s' ∧
      p'.input.fetch s'.world = (p.input.fetch s.world).as interactive := by
  obtain ⟨interactive, hinput⟩ := h.input
  obtain ⟨s', hready', hscene⟩ := h.ready s hready
  refine ⟨interactive, s', hready', hscene, ?_⟩
  rw [hscene.eq_withPast, hinput]
  exact (Input.fetch_past ..).trans (Input.fetch_as ..)

theorem meets (h : Abreast T p p') (hmeets : p.Meets text rest s) :
    ∃ interactive s', p'.Meets text (rest.as interactive) s' ∧ Twins T s s' := by
  obtain ⟨interactive, s', hready', hscene, hfetch⟩ := h.fetch hmeets.ready
  rw [hmeets.fetch] at hfetch
  exact ⟨interactive, s', ⟨hready', hfetch⟩, hscene⟩

theorem plan (h : Abreast T p p') {plan : Plan} (hplan : p.plan text = plan) :
    ∃ plan', p'.plan text = plan' ∧ plan.Alike p.interactive p'.interactive plan' := by
  refine ⟨_, rfl, ?_⟩
  rw [← hplan]
  unfold Place.plan
  rw [h.reading]
  exact alike_plan ..

theorem asks (h : Abreast T p p') (hasks : p.Asks j r rest s) :
    ∃ interactive j' s', p'.Asks j' r (rest.as interactive) s' ∧
      j.Alike p.interactive p'.interactive j' ∧ Twins T s s' := by
  obtain ⟨text, hmeets, hplan⟩ := hasks.meets
  obtain ⟨interactive, s', hmeets', hscene⟩ := h.meets hmeets
  obtain ⟨plan', hplan', halike⟩ := h.plan hplan
  cases halike with
  | job hj => exact ⟨interactive, _, s', ⟨text, hmeets', hplan'⟩, hj, hscene⟩

theorem performs (h : Abreast T p p') {j' : Job} {ending : Except Failure Outcome}
    {s₁ : Scene Console} (hj : j.Alike p.interactive p'.interactive j') (hscene : Twins T s s')
    (hjob : j.perform p.feed s = (ending, s₁)) :
    ∃ s₁', j'.perform p'.feed s' = (ending, s₁') ∧ Twins T s₁ s₁' := by
  have hfeed : p'.feed = p.feed := congrArg readNested h.depth
  rw [hfeed]
  exact (hj.agrees h.bearing (oblivious_readNested p.depth)).ends hscene hjob

end Abreast

/-- A step that is taken at one place is taken at the other. An interrupt must not make a difference
then. -/
theorem Step.paired {done? : Option (Job × Outcome)} (hstep : Step p done? q) (h : Abreast T p p')
    (hmark : IsCalm q.scene ∨ Agrees (Twins T) (interrupt p.interactive) (interrupt p'.interactive)) :
    ∃ done?' q', Step p' done?' q' ∧ Paired T q q' := by
  have hinterrupt {s s' : Scene Console} (hscene : Twins T s s')
      (hmark : IsCalm (interrupt p.interactive s).2 ∨
        Agrees (Twins T) (interrupt p.interactive) (interrupt p'.interactive)) :
      Twins T (interrupt p.interactive s).2 (interrupt p'.interactive s').2 := by
    rcases hmark with hcalm | hagrees
    · -- An interrupt would have left its mark on the scene.
      exact absurd (interrupt_eq p.interactive s).2 (by simp [hcalm.interrupted])
    · exact (hagrees _ _ hscene).2
  cases hstep with
  | @rest text rest r s hmeets hplan =>
    obtain ⟨interactive, s', hmeets', hscene⟩ := h.meets hmeets
    obtain ⟨plan', hplan', halike⟩ := h.plan hplan
    cases halike with
    | rest => exact ⟨_, _, .rest hmeets' hplan', h.onward .., hscene⟩
  | done hasks hjob ho =>
    obtain ⟨interactive, j', s', hasks', hj, hscene⟩ := h.asks hasks
    obtain ⟨s₁', hjob', hafter⟩ := h.performs hj hscene hjob
    exact ⟨_, _, .done hasks' hjob' ho, h.onward .., hafter⟩
  | broken hasks hjob =>
    obtain ⟨interactive, j', s', hasks', hj, hscene⟩ := h.asks hasks
    obtain ⟨s₁', hjob', hafter⟩ := h.performs hj hscene hjob
    have hstep := Step.broken hasks' hjob'
    rw [h.reading] at hstep
    exact ⟨_, _, hstep, h.onward .., hinterrupt hafter hmark⟩
  | interrupted hready hfetch =>
    obtain ⟨interactive, s', hready', hscene, hfetch'⟩ := h.fetch hready
    rw [hfetch] at hfetch'
    have hstep := Step.interrupted hready' hfetch'
    rw [h.reading] at hstep
    exact ⟨_, _, hstep, h.onward .., hinterrupt hscene hmark⟩

/-! What has been shown, and what has been done apart from that. -/

/-- What the input shows where it ends: a prompt, and a line end if there is nothing left to read. -/
def Place.lastShown (p : Place) : List String :=
  match p.input.fetch p.scene.world with
  | .nothing => [p.prompt, "\n"]
  | _ => [p.prompt]

theorem Place.fetch_of_calm (h : IsCalm p.scene) (hready : p.IsReady s) :
    p.input.fetch p.scene.world = p.input.fetch s.world := by
  obtain rfl := hready.unique (p.isReady_of_calm h)
  exact (Input.fetch_past ..).symm

theorem Place.lastShown_of_meets {text : List Char} {rest : Input} (h : IsCalm p.scene)
    (hmeets : p.Meets text rest s) : p.lastShown = [p.prompt] := by
  unfold lastShown
  rw [fetch_of_calm h hmeets.ready, hmeets.fetch]

section Transcripts
variable {start : List Deed} {shown : List String}

private theorem endInput_eq (interactive : Bool) (s : Scene Console) :
    endInput interactive s = (.ok (), s.withPast (shownDeeds interactive "\n" ++ s.world.past)) := by
  cases interactive <;> rfl

theorem Step.transcribed {done? : Option (Job × Outcome)} (h : Step p done? q) (hp : IsCalm p.scene)
    (hq : IsCalm q.scene)
    (hpaired : Paired (Transcript p.interactive p'.interactive start shown) p p') :
    ∃ done?' q', Step p' done?' q' ∧
      Paired (Transcript p.interactive p'.interactive start (p.prompt :: shown)) q q' :=
  h.paired (hpaired.abreast_of_calm hp Transcript.bearing fun _ _ h => h.shows _) (.inl hq)

theorem Course.transcribed {l : List Turn} (h : Course p l q) (hcalm : p.StaysCalm)
    (hpaired : Paired (Transcript p.interactive p'.interactive start shown) p p') :
    ∃ l' q', Course p' l' q' ∧
      Paired (Transcript p.interactive p'.interactive start
        ((l.map (·.place.prompt)).reverse ++ shown)) q q' := by
  induction h generalizing p' shown with
  | here p => exact ⟨[], p', .here p', hpaired⟩
  | @step p q q' done? l hstep hrest ih =>
    have hq := hcalm.step hstep
    obtain ⟨done?', q₁, hstep', hpaired'⟩ :=
      hstep.transcribed (hcalm _ _ (.here p)) (hq _ _ (.here q)) hpaired
    have hmode := hstep.frame.2.1
    have hmode' := hstep'.frame.2.1
    rw [← hmode, ← hmode'] at hpaired' ⊢
    obtain ⟨l', q₁', hcourse, hend⟩ := ih hq hpaired'
    refine ⟨_, q₁', .step hstep' hcourse, ?_⟩
    rwa [List.map_cons, List.reverse_cons, List.append_assoc]

theorem Closes.transcribed {x : Except Failure Outcome × Scene Console} (h : Closes p x)
    (hcalm : IsCalm p.scene)
    (hpaired : Paired (Transcript p.interactive p'.interactive start shown) p p') :
    ∃ x', Closes p' x' ∧ x'.1 = x.1 ∧
      Twins (Transcript p.interactive p'.interactive start (p.lastShown.reverse ++ shown)) x.2 x'.2 := by
  have hp : Abreast (Transcript p.interactive p'.interactive start (p.prompt :: shown)) p p' :=
    hpaired.abreast_of_calm hcalm Transcript.bearing fun _ _ h => h.shows _
  cases h with
  | halted h =>
    -- In a calm scene one more line is always asked for.
    rw [p.isReady_of_calm hcalm] at h
    cases h
  | @exhausted s hready hnothing =>
    have hlast : p.lastShown = [p.prompt, "\n"] := by
      unfold Place.lastShown
      rw [Place.fetch_of_calm hcalm hready, hnothing]
    obtain ⟨interactive, s', hready', hscene, hfetch'⟩ := hp.fetch hready
    rw [hnothing] at hfetch'
    refine ⟨_, .exhausted hready' hfetch', ?_⟩
    have hshown := twins_shows hscene (hscene.past.shows "\n")
    rw [hlast, Act.bind_ok (endInput_eq ..), Act.bind_ok (endInput_eq ..), hp.reading]
    have hends := (oblivious_conclude p.reading).agrees Transcript.bearing.lasts _ _ hshown
    exact ⟨hends.1.symm, hends.2⟩
  | @stopped j r rest s s₁ hasks hjob =>
    obtain ⟨text, hmeets, -⟩ := hasks.meets
    obtain ⟨interactive, j', s', hasks', hj, hscene⟩ := hp.asks hasks
    obtain ⟨s₁', hjob', hafter⟩ := hp.performs hj hscene hjob
    have hends := (oblivious_conclude r).agrees Transcript.bearing.lasts _ _ hafter
    rw [Place.lastShown_of_meets hcalm hmeets]
    exact ⟨_, .stopped hasks' hjob', hends.1.symm, hends.2⟩
  | lost hready hlost =>
    have hlast : p.lastShown = [p.prompt] := by
      unfold Place.lastShown
      rw [Place.fetch_of_calm hcalm hready, hlost]
    obtain ⟨interactive, s', hready', hscene, hfetch'⟩ := hp.fetch hready
    rw [hlost] at hfetch'
    rw [hlast]
    exact ⟨_, .lost hready' hfetch', rfl, hscene⟩
  | @unjudged text rest s hmeets hplan =>
    obtain ⟨interactive, s', hmeets', hscene⟩ := hp.meets hmeets
    obtain ⟨plan', hplan', halike⟩ := hp.plan hplan
    cases halike
    rw [Place.lastShown_of_meets hcalm hmeets]
    exact ⟨_, .unjudged hmeets' hplan', rfl, hscene⟩
  | @failed j r rest f s s₁ hasks hjob hf =>
    obtain ⟨text, hmeets, -⟩ := hasks.meets
    obtain ⟨interactive, j', s', hasks', hj, hscene⟩ := hp.asks hasks
    obtain ⟨s₁', hjob', hafter⟩ := hp.performs hj hscene hjob
    rw [Place.lastShown_of_meets hcalm hmeets]
    exact ⟨_, .failed hasks' hjob' hf, rfl, hafter⟩

/-- What a whole reading comes to, and what is shown meanwhile: the prompt at each place, and what is
shown last. -/
theorem Place.transcribed (hcalm : p.StaysCalm)
    (hpaired : Paired (Transcript p.interactive p'.interactive start []) p p') :
    ∃ l q, Course p l q ∧ Closes q p.read ∧ p'.read.1 = p.read.1 ∧
      Twins (Transcript p.interactive p'.interactive start
        (l.map (·.place.prompt) ++ q.lastShown).reverse) p.read.2 p'.read.2 := by
  obtain ⟨l, q, hcourse, hcloses⟩ := exists_course p
  obtain ⟨l', q', hcourse', hpaired'⟩ := hcourse.transcribed hcalm hpaired
  have hmode := hcourse.interactive_eq
  have hmode' := hcourse'.interactive_eq
  rw [← hmode, ← hmode'] at hpaired'
  obtain ⟨x', hcloses', hends, hscene⟩ := hcloses.transcribed (hcalm _ _ hcourse) hpaired'
  rw [hmode, hmode', List.append_nil, ← List.reverse_append] at hscene
  rw [hcourse'.read_eq, hcloses'.read_eq]
  exact ⟨l, q, hcourse, hcloses, hends, hscene⟩

end Transcripts

/-! The dot commands that are done, in the input and in the files that its lines ask for. -/

/-- Reading comes to a dot command, when the engine has been asked for these things. The position tells
how many lines are before it, in each file that is open and last in its own. -/
def Place.Dispatches (p : Place) (position : List Nat) (events : List Engine.Event)
    (line : List Char) : Prop :=
  ∃ trail q r rest s, Visits p trail q ∧ q.Asks (.command line) r rest s ∧
    position = trail ++ [q.reading.lines] ∧ s.world.events = events

private theorem echoed_twins {line : List Char} (hT : Lasting T) (h : Twins T s s') :
    Twins T (echoed line s) (echoed line s') := by
  cases h with
  | mk past h =>
    have hsame : (s.withPast past).own = s.own := rfl
    unfold echoed
    rw [hsame]
    by_cases hecho : s.own.session.settings.echo = true
    · rw [if_pos hecho, if_pos hecho]
      exact .mk (_ :: past) (hT _ _ _ h)
    · rw [if_neg hecho, if_neg hecho]
      exact .mk past h

theorem Requests.twins {line : List Char} {source : Source} {s₁ : Scene Console}
    (h : Requests line s source s₁) (hT : Lasting T) (hscene : Twins T s s') :
    ∃ s₁', Requests line s' source s₁' ∧ Twins T s₁ s₁' := by
  obtain ⟨typed, arguments, hwords, hfind, hopen⟩ := h.opens
  obtain ⟨s₁', hopen', hafter⟩ :=
    ((Oblivious.openSource? _ _).agrees hT).ends (echoed_twins hT hscene) hopen
  exact ⟨s₁', ⟨typed, arguments, hwords, hfind, hopen'⟩, hafter⟩

theorem Paired.opened {depth : Nat} {source : Source} (h : Twins T s s') :
    Paired T (.opened depth source s) (.opened depth source s') := by
  refine ⟨⟨rfl, ⟨false, ?_⟩, rfl⟩, h⟩
  show Input.file _ source = Input.file _ source
  rw [h.eq_withPast]
  rfl

/-- Both inputs are interactive or neither is, or nothing ends them early. -/
def Matched (p p' : Place) : Prop :=
  p'.interactive = p.interactive ∨ p.StaysCalm ∨ p'.StaysCalm

theorem Matched.symm (h : Matched p p') : Matched p' p := by
  rcases h with hmode | hcalm | hcalm
  · exact .inl hmode.symm
  · exact .inr (.inr hcalm)
  · exact .inr (.inl hcalm)

theorem Matched.step {q' : Place} {done? done?' : Option (Job × Outcome)} (h : Matched p p')
    (hstep : Step p done? q) (hstep' : Step p' done?' q') : Matched q q' := by
  rcases h with hmode | hcalm | hcalm
  · exact .inl (hstep'.frame.2.1.trans (hmode.trans hstep.frame.2.1.symm))
  · exact .inr (.inl (hcalm.step hstep))
  · exact .inr (.inr (hcalm.step hstep'))

theorem Paired.abreast (h : Paired Concurs p p') (hmatched : Matched p p') : Abreast Concurs p p' := by
  have hcalm (hcalm : IsCalm p.scene) : Abreast Concurs p p' :=
    h.abreast_of_calm hcalm Concurs.bearing fun _ _ h => h.shows _
  rcases hmatched with hmode | hp | hp'
  · exact h.abreast_of_same hmode Concurs.lasting
  · exact hcalm (hp _ _ (.here p))
  · obtain ⟨hbails, hi⟩ := hp' _ _ (.here p')
    rw [bails, h.scene.own] at hbails
    rw [h.scene.own] at hi
    exact hcalm ⟨hbails, hi⟩

theorem Visits.paired {trail : List Nat} (h : Visits p trail q) (hpaired : Paired Concurs p p')
    (hmatched : Matched p p') :
    ∃ q', Visits p' trail q' ∧ Paired Concurs q q' ∧ Matched q q' := by
  induction h generalizing p' with
  | here p => exact ⟨p', .here p', hpaired, hmatched⟩
  | step hstep _ ih =>
    obtain ⟨done?', q₁, hstep', hpaired'⟩ :=
      hstep.paired (hpaired.abreast hmatched) (.inr agrees_interrupt)
    obtain ⟨q', hvisits, hrest⟩ := ih hpaired' (hmatched.step hstep hstep')
    exact ⟨q', .step hstep' hvisits, hrest⟩
  | @opened p q₁ q trail hopens _ ih =>
    have hfile := hopens.interactive_eq
    cases hopens with
    | @mk depth line r rest s s₁ source hasks hrequests hdepth =>
      have habreast := hpaired.abreast hmatched
      obtain ⟨interactive, j', s', hasks', hj, hscene⟩ := habreast.asks hasks
      cases hj
      obtain ⟨s₁', hrequests', hscene'⟩ := hrequests.twins habreast.bearing.lasts hscene
      have hopens' : Opens p' (.opened depth source s₁') :=
        .mk hasks' hrequests' (hpaired.depth.trans hdepth)
      -- No file is interactive, so nothing has to be calm there.
      have hmode := hopens'.interactive_eq.trans hfile.symm
      obtain ⟨q', hvisits, hrest⟩ := ih (.opened hscene') (.inl hmode)
      refine ⟨q', ?_, hrest⟩
      rw [← hpaired.reading]
      exact .opened hopens' hvisits

theorem Place.Dispatches.paired {position : List Nat} {events : List Engine.Event} {line : List Char}
    (h : p.Dispatches position events line) (hpaired : Paired Concurs p p') (hmatched : Matched p p') :
    p'.Dispatches position events line := by
  obtain ⟨trail, q, r, rest, s, hvisits, hasks, rfl, rfl⟩ := h
  obtain ⟨q', hvisits', hq, hmatched'⟩ := hvisits.paired hpaired hmatched
  obtain ⟨interactive, j', s', hasks', hj, hscene⟩ := (hq.abreast hmatched').asks hasks
  cases hj
  refine ⟨trail, q', r, _, s', hvisits', hasks', ?_, ?_⟩
  · rw [hq.reading]
  · exact congrArg List.reverse hscene.past.symm

/-- An input that is interactive and one that is not come to the same, in scenes that are the same but
for their pasts: what was done differs in the prompts for the lines, which only an interactive input
shows with a line end where there is nothing left to read, and in the lines that errors of SQL text
tell. The engine is asked for the same things, the same texts are written to files and commands, and the
same dot commands are done with the same things asked of the engine before. -/
theorem readInput_alike (interactive interactive' : Bool) (items : List Item) (s : Scene Console)
    (hcalm : (Place.start interactive items s).StaysCalm) :
    let x := readInput interactive items s
    let x' := readInput interactive' items s
    (∃ (l : List Turn) (q : Place) (entries : List Entry),
      Course (.start interactive items s) l q ∧ Closes q x ∧
      entries.filterMap Entry.shown? = (l.map (·.place.prompt) ++ q.lastShown).reverse ∧
      x.2.world.past = entries.flatMap (Entry.deeds interactive) ++ s.world.past ∧
      x' = (x.1, x.2.withPast (entries.flatMap (Entry.deeds interactive') ++ s.world.past))) ∧
    x'.2.world.events = x.2.world.events ∧
    (∀ id name, x'.2.world.written (.opened id name) = x.2.world.written (.opened id name)) ∧
    ∀ position events line,
      (Place.start interactive' items s).Dispatches position events line ↔
        (Place.start interactive items s).Dispatches position events line := by
  intro x x'
  let p := Place.start interactive items s
  let p' := Place.start interactive' items s
  have hlevel : Level p p' := ⟨rfl, ⟨interactive', rfl⟩, rfl⟩
  have hstart : Paired (Transcript p.interactive p'.interactive s.world.past []) p p' :=
    ⟨hlevel, .mk s.world.past ⟨[], rfl, rfl, rfl⟩⟩
  obtain ⟨l, q, hcourse, hcloses, hends, hscene⟩ := Place.transcribed hcalm hstart
  obtain ⟨entries, hshown, hpast, hpast'⟩ := hscene.past
  have hconcurs : Paired Concurs p p' := ⟨hlevel, .mk s.world.past rfl⟩
  have hmatched : Matched p p' := .inr (.inl hcalm)
  refine ⟨⟨l, q, entries, hcourse, hcloses, hshown, hpast, Prod.ext hends ?_⟩, ?_, fun id name => ?_,
    fun position events line => ⟨fun h => ?_, fun h => ?_⟩⟩
  · exact hscene.eq_withPast.trans (congrArg _ hpast')
  · exact congrArg List.reverse (hscene.past.filterMap_eq (fun _ => rfl) fun _ => rfl)
  · exact congrArg List.reverse (hscene.past.filterMap_eq (fun _ => rfl) fun _ => rfl)
  · exact h.paired (hconcurs.symm fun _ _ h => h.symm) hmatched.symm
  · exact h.paired hconcurs hmatched

/-- An error that is let pass, and a dot command after it, which is done in both cases. -/
theorem readInput_alike_print :
    let items := inputOfText ".frob\n.print x\n".toList
    (Place.start false items untouched).StaysCalm ∧
      (readInput false items untouched).1 = .ok .error ∧
      (readInput true items untouched).1 = .ok .error ∧
      (Place.start true items untouched).Dispatches [1] [] ".print x".toList := by
  intro items
  let p : Place := .start false items untouched
  have hfirst : p.Asks (.command ".frob".toList) { lines := 1 }
      (.items false [.line ".print x\n".toList]) untouched :=
    ⟨".frob\n".toList, ⟨isReady_of_ready ⟨.inl rfl, rfl⟩, rfl⟩, rfl⟩
  obtain ⟨s₁, hfrob, hready₁, hcalm₁, hevents, s₂, hprint, hready₂, hcalm₂⟩ :
      ∃ s₁, (Job.command ".frob".toList).perform p.feed untouched = (.ok .error, s₁) ∧ Ready 1 s₁ ∧
        IsCalm s₁ ∧ s₁.world.events = [] ∧
        ∃ s₂, (Job.command ".print x".toList).perform p.feed s₁ = (.ok .success, s₂) ∧ Ready 1 s₂ ∧
          IsCalm s₂ :=
    ⟨_, rfl, ⟨.inr rfl, rfl⟩, ⟨rfl, rfl⟩, rfl, _, rfl, ⟨.inr rfl, rfl⟩, ⟨rfl, rfl⟩⟩
  let p₁ : Place := p.onward (.items false [.line ".print x\n".toList])
    { lines := 1, errors := 1 } s₁
  have hsecond : p₁.Asks (.command ".print x".toList) { lines := 2, errors := 1 } (.items false []) s₁ :=
    ⟨".print x\n".toList, ⟨isReady_of_ready hready₁, rfl⟩, rfl⟩
  let p₂ : Place := p₁.onward (.items false []) { lines := 2, errors := 1 } s₂
  have hstep : Step p _ p₁ := .done hfirst hfrob nofun
  have hstep' : Step p₁ _ p₂ := .done hsecond hprint nofun
  have hcloses : Closes p₂ (.ok .error, s₂) := .exhausted (isReady_of_ready hready₂) rfl
  have hread : p.read = (.ok .error, s₂) :=
    hstep.read_eq.trans (hstep'.read_eq.trans hcloses.read_eq)
  have hcalm : p.StaysCalm :=
    .of_asks ⟨rfl, rfl⟩ hfirst hfrob (.of_asks hcalm₁ hsecond hprint (.of_size hcalm₂ rfl))
  obtain ⟨⟨_, _, _, -, -, -, -, hsame⟩, -, -, hdispatches⟩ :=
    readInput_alike false true items untouched hcalm
  have hends : (readInput false items untouched).1 = .ok .error := congrArg Prod.fst hread
  refine ⟨hcalm, hends, ?_, (hdispatches _ _ _).2 ?_⟩
  · rw [hsame, hends]
  · exact ⟨[], p₁, _, _, s₁, .step hstep (.here p₁), hsecond, rfl, hevents⟩

end Console
end SqlConsole

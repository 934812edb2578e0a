import SqlConsole.Proofs.Console.Inputs

/-! Where a failure comes from that ends the reading of files: from one place in one of them. -/
namespace SqlConsole.Console

variable {o : Origin} {feed : Source → Act Console Outcome} {line : List Char} {f : Failure}
  {p q : Place} {s s' : Scene Console}

theorem reported_error {x : Act Console Outcome} (h : reported x s = (.error f, s')) :
    x s = (.error f, s') ∧ f.message? = none := by
  rw [reported_eq] at h
  rcases hx : x s with ⟨g | outcome, t⟩ <;> rw [hx] at h
  · dsimp only at h
    cases hmessage : g.message? with
    | none =>
      rw [hmessage] at h
      cases h
      exact ⟨rfl, hmessage⟩
    | some message =>
      rw [hmessage] at h
      cases h
  · cases h

/-- A line fails with what comes out of its command, or of reading the file that it asks for. -/
theorem dotLine_error (hs : o.Stands s) (h : dotLine feed line s = (.error f, s')) :
    f.message? = none ∧
      ((∃ command arguments, Means line command arguments ∧
        MayFail o command arguments f) ∨
      ∃ source, AsksFor line s source ∧ feed source s = (.error f, s')) := by
  by_cases hline : IsReading line
  · obtain ⟨arguments, hmeans⟩ := hline
    rw [dotLine_of_means hmeans] at h
    obtain ⟨hread, hmessage⟩ := reported_error h
    refine ⟨hmessage, ?_⟩
    have hread : readFile feed (arguments.headD "") s = (.error f, s') := hread
    rcases readFile_cases feed (arguments.headD "") s with ⟨source, hopen, heq⟩ | heq | ⟨heq, hzero⟩
    · exact .inr ⟨source, ⟨arguments, hmeans, hopen⟩, heq.symm.trans hread⟩
    · cases heq.symm.trans hread
      cases hmessage
    · cases heq.symm.trans hread
      exact .inl ⟨_, _, hmeans, .inr (.zeroCharacter List.mem_cons_self hzero)⟩
  · have hends := (ensures_dotLine feed hline s.own.session).apply_error hs h
    exact ⟨hends.1.1, .inl hends.1.2⟩

/-- What the next line at a place may fail with, or the next part of the input. -/
inductive Place.Breaks (script : Engine.Script) (p : Place) : Failure → Prop where
  /-- There is no telling what comes next. -/
  | lost {f : Failure} {s : Scene Console} (hready : p.IsReady s)
      (hfetch : p.input.fetch s.world = .failed f) : Breaks script p f
  /-- The engine cannot judge the text that has been gathered. -/
  | unjudged {text : List Char} {rest : Input} {s : Scene Console} (hmeets : p.Meets text rest s)
      (hplan : p.plan text = .unjudged) : Breaks script p .zeroCharacter
  | escapes {line : List Char} {r : Reading} {rest : Input} {s : Scene Console} {command : Command}
      {arguments : List String} {f : Failure} (hasks : p.Asks (.command line) r rest s)
      (hline : Means line command arguments) (hf : Escapes script command arguments f) :
      Breaks script p f
  /-- No more files are followed. -/
  | deep {line : List Char} {r : Reading} {rest : Input} {s : Scene Console} {source : Source}
      (hasks : p.Asks (.command line) r rest s) (hfile : AsksFor line (echoed line s) source)
      (hdepth : p.depth = 0) : Breaks script p .tooDeep
  | unsettled {text : String} {line? : Option Int} {r : Reading} {rest : Input} {s : Scene Console}
      (hasks : p.Asks (.sql text line?) r rest s) (hsettled : Statement.isSettled text.toList = false) :
      Breaks script p .zeroCharacter
  | missing {text : String} {line? : Option Int} {r : Reading} {rest : Input} {s : Scene Console}
      (hasks : p.Asks (.sql text line?) r rest s) (hfull : ¬ script.IsFull) :
      Breaks script p .missingValue
  /-- Something does not get into a sink. -/
  | refused {j : Job} {r : Reading} {rest : Input} {s : Scene Console} {k : Sink} {fault : SinkFault}
      (hasks : p.Asks j r rest s) (hk : s.world.Refuses k) : Breaks script p (.sink k fault)

theorem conclude_ne_error (r : Reading) (s s' : Scene Console) : conclude r s ≠ (.error f, s') := by
  intro h
  by_cases hunended : r.IsUnended
  · rw [conclude_unended hunended] at h
    cases h
  · rw [conclude_ended hunended] at h
    cases h

theorem Course.visits {l : List Turn} (h : Course p l q) {trail : List Nat} {q' : Place}
    (hrest : Visits q trail q') : Visits p trail q' := by
  induction h with
  | here => exact hrest
  | step hstep _ ih => exact .step hstep (ih hrest)

theorem Course.depth_eq {l : List Turn} (h : Course p l q) : q.depth = p.depth := by
  induction h with
  | here => rfl
  | step hstep _ ih => exact ih.trans hstep.frame.1

theorem Visits.stands {trail : List Nat} (h : Visits p trail q) (hs : o.Stands p.scene) :
    o.Stands q.scene :=
  (h.moves (P := fun _ => True) fun _ _ _ _ _ _ _ _ => trivial).stands hs

theorem Opens.stands (h : Opens p q) (hs : o.Stands p.scene) : o.Stands q.scene :=
  (Visits.opened h (.here q)).stands hs

theorem Place.Asks.stands {j : Job} {r : Reading} {rest : Input} (h : p.Asks j r rest s)
    (hs : o.Stands p.scene) : o.Stands s := (h.moves (P := fun _ => True)).stands hs

theorem stands_echoed (hs : o.Stands s) (line : List Char) : o.Stands (echoed line s) :=
  (moves_echoed (P := fun _ => True) line).stands hs

/-- SQL fails where the engine cannot judge its text, or where a row lacks a value. -/
theorem runWhole_error {sql : String} {line? : Option Int} (hs : o.Stands s)
    (h : runWhole sql line? s = (.error f, s')) :
    o.Expects f ∨ f = .zeroCharacter ∧ Statement.isSettled sql.toList = false ∨
      f = .missingValue ∧ ¬ o.script.IsFull := by
  have hsafe : Act.Safe (o.Rests s.own.session) (fun f => o.Expects f ∨
      f = .zeroCharacter ∧ Statement.isSettled sql.toList = false ∨ f = .missingValue ∧ ¬ o.script.IsFull)
      (runSql sql line?) :=
    safe_runSql (fun _ hf => .inl hf) (fun hsettled => .inr (.inl ⟨rfl, hsettled⟩))
      (fun hfull => .inr (.inr ⟨rfl, hfull⟩)) line?
  exact (Act.Ensures.apply_error hsafe hs (runSql_of_runWhole h)).2

/-- There is no telling what comes next in a file that cannot be decoded or never ends. -/
theorem Input.fetch_failed {w : World} {input : Input} (h : input.fetch w = .failed f) :
    f = .undecodable ∨ f = .endless := by
  unfold Input.fetch at h
  split at h
  · cases h
  · cases h
  · cases h
  · cases h
  · cases h
    exact .inr rfl
  · split at h
    · cases h
    · cases h
    · cases h
      exact .inl rfl

/-- A job that fails does so at its place, or at one in the file that its line asks for. -/
private theorem Place.Asks.error {j : Job} {r : Reading} {rest : Input} (hasks : p.Asks j r rest s)
    (hs : o.Stands p.scene) (hjob : j.perform p.feed s = (.error f, s')) (hmessage : f.message? = none)
    (hf : f ≠ .interrupted)
    (hfile : ∀ d source t, p.depth = d + 1 → Opens p (.opened d source t) →
      (Place.opened d source t).read = (.error f, s') →
      ∃ trail q, Visits (.opened d source t) trail q ∧ q.Breaks o.script f) :
    ∃ trail q, Visits p trail q ∧ q.Breaks o.script f := by
  have hexpected (h : o.Expects f) : ∃ trail q, Visits p trail q ∧ q.Breaks o.script f := by
    rcases h with h | ⟨k, fault, rfl, hk⟩
    · exact absurd h (Failure.not_isHandled hmessage hf)
    · refine ⟨[], p, .here p, .refused hasks ?_⟩
      rwa [World.Refuses, (hasks.stands hs).2.taking]
  cases j with
  | sql text line? =>
    rcases runWhole_error (hasks.stands hs) hjob with h | ⟨rfl, hsettled⟩ | ⟨rfl, hfull⟩
    · exact hexpected h
    · exact ⟨[], p, .here p, .unsettled hasks hsettled⟩
    · exact ⟨[], p, .here p, .missing hasks hfull⟩
  | command line =>
    have hline : dotLine p.feed line (echoed line s) = (.error f, s') := by
      rw [← commandLine_eq]
      exact hjob
    obtain ⟨-, ⟨command, arguments, hmeans, hfails⟩ | ⟨source, hasksFor, hfeed⟩⟩ :=
      dotLine_error (stands_echoed (hasks.stands hs) line) hline
    · rcases hfails with h | hescapes
      · exact hexpected h
      · exact ⟨[], p, .here p, .escapes hasks hmeans hescapes⟩
    · cases hdepth : p.depth with
      | zero =>
        rw [Place.feed, hdepth] at hfeed
        cases hfeed
        exact ⟨[], p, .here p, .deep hasks hasksFor hdepth⟩
      | succ d =>
        rw [Place.feed, hdepth] at hfeed
        have hopens : Opens p (.opened d source (echoed line s)) :=
          .mk hasks hasksFor.requests hdepth
        obtain ⟨trail, q, hvisits, hbreaks⟩ := hfile d source _ hdepth hopens hfeed
        exact ⟨_, q, .opened hopens hvisits, hbreaks⟩

/-- What reading fails with comes from one place in the input, or in a file that a line has asked for. By
induction on how deep files may still go. -/
theorem Place.read_error (hs : o.Stands p.scene) (h : p.read = (.error f, s'))
    (hmessage : f.message? = none) :
    f ≠ .interrupted ∧ ∃ trail q, Visits p trail q ∧ q.Breaks o.script f := by
  induction hdepth : p.depth using Nat.strongRecOn generalizing p s' with
  | ind depth ih =>
    obtain ⟨l, q, hcourse, hcloses⟩ := exists_course p
    have hvisits : Visits p [] q := hcourse.visits (.here q)
    rw [h] at hcloses
    generalize hx : ((.error f, s') : Except Failure Outcome × Scene Console) = x at hcloses
    cases hcloses with
    | halted => exact (conclude_ne_error _ _ _ hx.symm).elim
    | exhausted =>
      rw [Act.bind_ok (endInput_ok ..)] at hx
      exact (conclude_ne_error _ _ _ hx.symm).elim
    | stopped => exact (conclude_ne_error _ _ _ hx.symm).elim
    | lost hready hfetch =>
      cases hx
      refine ⟨?_, [], q, hvisits, .lost hready hfetch⟩
      rcases Input.fetch_failed hfetch with rfl | rfl <;> exact nofun
    | unjudged hmeets hplan =>
      cases hx
      exact ⟨nofun, [], q, hvisits, .unjudged hmeets hplan⟩
    | failed hasks hjob hf =>
      -- the job fails here, or at a place in the file that its line asks for, which is less deep
      cases hx
      have hq : q.depth = depth := hcourse.depth_eq.trans hdepth
      obtain ⟨trail, q', hvisits', hbreaks⟩ := hasks.error (hvisits.stands hs) hjob hmessage hf
        fun d source t hd hopens hread => (ih d (by omega) (hopens.stands (hvisits.stands hs)) hread rfl).2
      exact ⟨hf, trail, q', hcourse.visits hvisits', hbreaks⟩

end SqlConsole.Console

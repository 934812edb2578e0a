import SqlConsole.Proofs.Console.Job
import SqlConsole.Proofs.Console.Partition
import SqlConsole.Proofs.Execute.Delivery

/-! Reading step by step: the places that it comes to in an input, and in the files that lines of the
input ask for. -/
namespace SqlConsole.Console

/-- What is left of an input. -/
inductive Input where
  | items (interactive : Bool) (l : List Item)
  /-- A file, of which so many lines are read at most. -/
  | file (fuel : Nat) (source : Source)

/-- What is next in an input. -/
inductive Fetched where
  | line (text : List Char) (rest : Input)
  | interrupt (rest : Input)
  | nothing
  | failed (f : Failure)

namespace Input

def interactive : Input → Bool
  | items interactive _ => interactive
  | file _ _ => false

def size : Input → Nat
  | items _ l => l.length
  | file fuel _ => fuel

/-- What is next. A line of no characters at all is the end of the input. -/
def fetch (w : World) : Input → Fetched
  | items _ [] => .nothing
  | items interactive (.interrupt :: rest) => .interrupt (items interactive rest)
  | items _ (.line [] :: _) => .nothing
  | items interactive (.line (c :: text) :: rest) => .line (c :: text) (items interactive rest)
  | file 0 _ => .failed .endless
  | file (fuel + 1) source =>
    match source.reader.line? ((w.files.content? source.path).getD []) with
    | some ([], _) => .nothing
    | some (c :: text, reader) => .line (c :: text) (file fuel { source with reader })
    | none => .failed .undecodable

variable {w : World} {input rest : Input} {text : List Char}

theorem fetch_file {fuel : Nat} {source : Source} {c : Char} {reader : Text.Reader}
    (h : source.reader.line? ((w.files.content? source.path).getD []) = some (c :: text, reader)) :
    (file (fuel + 1) source).fetch w = .line (c :: text) (file fuel { source with reader }) := by
  rw [fetch, h]

theorem fetch_line (h : input.fetch w = .line text rest) :
    rest.size < input.size ∧ rest.interactive = input.interactive := by
  unfold fetch at h
  split at h
  · cases h
  · cases h
  · cases h
  · cases h
    exact ⟨Nat.lt_succ_self _, rfl⟩
  · cases h
  · split at h
    · cases h
    · cases h
      exact ⟨Nat.lt_succ_self _, rfl⟩
    · cases h

theorem fetch_interrupt (h : input.fetch w = .interrupt rest) :
    rest.size < input.size ∧ rest.interactive = input.interactive := by
  unfold fetch at h
  split at h
  · cases h
  · cases h
    exact ⟨Nat.lt_succ_self _, rfl⟩
  · cases h
  · cases h
  · cases h
  · split at h <;> cases h

end Input

/-- Where the reading of an input is. Files that its lines ask for are read down to a depth. -/
structure Place where
  depth : Nat
  input : Input
  reading : Reading
  scene : Scene Console

namespace Place

def interactive (p : Place) : Bool := p.input.interactive

def feed (p : Place) : Source → Act Console Outcome := readNested p.depth

/-- What the reading comes to from the place on. -/
def read (p : Place) : Except Failure Outcome × Scene Console :=
  match p.input with
  | .items interactive l => readItems p.feed interactive p.reading l p.scene
  | .file fuel source => readLines p.feed fuel p.reading source p.scene

/-- The place further on in the same input. -/
def onward (p : Place) (input : Input) (reading : Reading) (scene : Scene Console) : Place :=
  { p with input, reading, scene }

/-- The start of an input that is there from the start. -/
def start (interactive : Bool) (items : List Item) (s : Scene Console) : Place :=
  { depth := maxDepth, input := .items interactive items, reading := {}, scene := s }

/-- The start of a file that has been opened. -/
def opened (depth : Nat) (source : Source) (s : Scene Console) : Place where
  depth := depth
  input := .file (((s.world.files.content? source.path).getD []).length + Act.maxAddedLines) source
  reading := {}
  scene := s

theorem read_start (interactive : Bool) (items : List Item) (s : Scene Console) :
    (start interactive items s).read = readInput interactive items s := rfl

theorem read_opened (depth : Nat) (source : Source) (s : Scene Console) :
    (opened depth source s).read = readNested (depth + 1) source s := rfl

def plan (p : Place) (text : List Char) : Plan :=
  Console.plan p.interactive p.reading (Text.chomp text)

/-- One more line is asked for, and this is the scene then. -/
def IsReady (p : Place) (s : Scene Console) : Prop :=
  isReady p.interactive p.reading p.scene = (.ok true, s)

/-- No more line is asked for. -/
def IsDone (p : Place) : Prop := ∃ s, isReady p.interactive p.reading p.scene = (.ok false, s)

/-- One more line is asked for, and there is one. -/
structure Meets (p : Place) (text : List Char) (rest : Input) (s : Scene Console) : Prop where
  ready : p.IsReady s
  fetch : p.input.fetch s.world = .line text rest

/-- There is one more line, and it asks for a job. -/
structure Asks (p : Place) (j : Job) (r : Reading) (rest : Input) (s : Scene Console) : Prop where
  meets : ∃ text, p.Meets text rest s ∧ p.plan text = .job j r

theorem continues_plan (p : Place) (text : List Char) :
    (p.plan text).Continues { p.reading with lines := p.reading.lines + 1 } :=
  Console.continues_plan ..

/-- What is planned with a job. -/
theorem Asks.continues {p : Place} {j : Job} {r : Reading} {rest : Input} {s : Scene Console}
    (h : p.Asks j r rest s) :
    (Plan.job j r).Continues { p.reading with lines := p.reading.lines + 1 } := by
  obtain ⟨text, -, hplan⟩ := h.meets
  rw [← hplan]
  exact p.continues_plan text

/-- The next line asks for a job that is done, and this is what it comes to. -/
def Does (p : Place) (j : Job) (o : Outcome) (s' : Scene Console) : Prop :=
  ∃ r rest s, p.Asks j r rest s ∧ j.perform p.feed s = (.ok o, s')

end Place

/-- One item of input and what is done with it: the job that a line asks for, and its outcome. An
interrupt drops what has been gathered. -/
inductive Step (p : Place) : Option (Job × Outcome) → Place → Prop where
  | rest {text : List Char} {rest : Input} {r : Reading} {s : Scene Console}
      (hmeets : p.Meets text rest s) (hplan : p.plan text = .rest r) :
      Step p none (p.onward rest r s)
  | done {j : Job} {r : Reading} {rest : Input} {o : Outcome} {s s' : Scene Console}
      (hasks : p.Asks j r rest s) (hjob : j.perform p.feed s = (.ok o, s')) (ho : o ≠ .stop) :
      Step p (some (j, o)) (p.onward rest (r.after o).2 s')
  | broken {j : Job} {r : Reading} {rest : Input} {s s' : Scene Console}
      (hasks : p.Asks j r rest s) (hjob : j.perform p.feed s = (.error .interrupted, s')) :
      Step p none (p.onward rest p.reading.drop (interrupt p.interactive s').2)
  | interrupted {rest : Input} {s : Scene Console} (hready : p.IsReady s)
      (hfetch : p.input.fetch s.world = .interrupt rest) :
      Step p none (p.onward rest p.reading.clear (interrupt p.interactive s).2)

/-- How the reading ends at a place, and what it comes to. -/
inductive Closes (p : Place) : Except Failure Outcome × Scene Console → Prop where
  | halted {s : Scene Console}
      (h : isReady p.interactive p.reading p.scene = (.ok false, s)) : Closes p (conclude p.reading s)
  | exhausted {s : Scene Console} (hready : p.IsReady s)
      (hfetch : p.input.fetch s.world = .nothing) :
      Closes p ((do endInput p.interactive; conclude p.reading) s)
  | stopped {j : Job} {r : Reading} {rest : Input} {s s' : Scene Console}
      (hasks : p.Asks j r rest s) (hjob : j.perform p.feed s = (.ok .stop, s')) :
      Closes p (conclude r s')
  | lost {f : Failure} {s : Scene Console} (hready : p.IsReady s)
      (hfetch : p.input.fetch s.world = .failed f) : Closes p (.error f, s)
  | unjudged {text : List Char} {rest : Input} {s : Scene Console} (hmeets : p.Meets text rest s)
      (hplan : p.plan text = .unjudged) : Closes p (.error .zeroCharacter, s)
  | failed {j : Job} {r : Reading} {rest : Input} {f : Failure} {s s' : Scene Console}
      (hasks : p.Asks j r rest s) (hjob : j.perform p.feed s = (.error f, s'))
      (hf : f ≠ .interrupted) : Closes p (.error f, s')

variable {p q : Place} {s s' : Scene Console}

theorem isReady_ok (interactive : Bool) (r : Reading) (s : Scene Console) :
    ∃ b s', isReady interactive r s = (.ok b, s') := by
  unfold isReady
  rw [Act.bind_ok (show Act.own s = (.ok s.own, s) from rfl)]
  dsimp only
  split
  · exact ⟨false, s, rfl⟩
  · split
    · exact ⟨false, s, rfl⟩
    · cases interactive <;> exact ⟨true, _, rfl⟩

/-! One iteration of the loop, for items and for lines of a file. -/

private theorem read_of_done (h : isReady p.interactive p.reading p.scene = (.ok false, s)) :
    p.read = conclude p.reading s := by
  obtain ⟨depth, input, r, s₀⟩ := p
  cases input with
  | items interactive l => cases l <;> exact Act.bind_ok h _
  | file fuel source => cases fuel <;> exact Act.bind_ok h _

/-- How reading goes on when a line has been taken. -/
private def proceed (p : Place) (rest : Input) :
    Except Failure (Bool × Reading) × Scene Console → Except Failure Outcome × Scene Console
  | (.ok (true, r), s) => (p.onward rest r s).read
  | (.ok (false, r), s) => conclude r s
  | (.error f, s) => (.error f, s)

private theorem readLine_apply (source : Source) (s : Scene Console) :
    Act.readLine source s =
      match source.reader.line? ((s.world.files.content? source.path).getD []) with
      | some (line, reader) => (.ok (line, { source with reader }), s)
      | none => (.error .undecodable, s) := by
  unfold Act.readLine
  rw [Act.bind_ok (show Act.world s = (.ok s.world, s) from rfl)]
  split <;> rename_i h <;> rw [h] <;> rfl

private theorem taken_eq (x : Act Console (Bool × Reading)) (k : Reading → Act Console Outcome)
    (s : Scene Console) :
    (do
      match ← x with
      | (true, r) => k r
      | (false, r) => conclude r) s =
      match x s with
      | (.ok (true, r), s') => k r s'
      | (.ok (false, r), s') => conclude r s'
      | (.error f, s') => (.error f, s') := by
  rw [Act.bind_apply]
  rcases x s with ⟨f | ⟨goes, r⟩, s'⟩
  · rfl
  · cases goes <;> rfl

private theorem read_of_ready (h : p.IsReady s) :
    p.read = match p.input.fetch s.world with
      | .line text rest => proceed p rest (takeWhole p.feed p.interactive p.reading text s)
      | .interrupt rest => (p.onward rest p.reading.clear (interrupt p.interactive s).2).read
      | .nothing => (do endInput p.interactive; conclude p.reading) s
      | .failed f => (.error f, s) := by
  obtain ⟨depth, input, r, s₀⟩ := p
  cases input with
  | items interactive l =>
    cases l with
    | nil => exact Act.bind_ok h _
    | cons item l =>
      refine (Act.bind_ok h _).trans ?_
      cases item with
      | interrupt => exact Act.bind_ok (Act.bind_ok (interrupt_eq interactive s).1 fun _ => pure _) _
      | line text =>
        cases text with
        | nil => cases interactive <;> rfl
        | cons c text => exact taken_eq _ _ s
  | file fuel source =>
    cases fuel with
    | zero => exact Act.bind_ok h _
    | succ fuel =>
      refine (Act.bind_ok h _).trans ?_
      have hline := readLine_apply source s
      simp only [Input.fetch]
      rcases hread : source.reader.line? ((s.world.files.content? source.path).getD []) with
        _ | ⟨_ | ⟨c, text⟩, reader⟩ <;> rw [hread] at hline
      · exact Act.bind_error hline _
      · exact Act.bind_ok hline _
      · refine (Act.bind_ok hline _).trans ?_
        exact taken_eq _ _ s

private theorem read_of_meets {text : List Char} {rest : Input} (h : p.Meets text rest s) :
    p.read = proceed p rest (takeWhole p.feed p.interactive p.reading text s) := by
  rw [read_of_ready h.ready, h.fetch]

/-- What reading comes to where a line asks for a job. -/
private theorem read_of_asks {j : Job} {r : Reading} {rest : Input} (h : p.Asks j r rest s) :
    p.read = match j.perform p.feed s with
      | (.ok .stop, s') => conclude r s'
      | (.ok o, s') => (p.onward rest (r.after o).2 s').read
      | (.error .interrupted, s') =>
        (p.onward rest p.reading.drop (interrupt p.interactive s').2).read
      | (.error f, s') => (.error f, s') := by
  obtain ⟨text, hmeets, hplan⟩ := h.meets
  have htake : takeLine p.feed p.interactive p.reading (Text.chomp text) s =
      (do pure (r.after (← j.perform p.feed))) s := by
    rw [takeLine_eq_follow, show Console.plan _ _ _ = _ from hplan]
    rfl
  rw [read_of_meets hmeets]
  rcases hjob : j.perform p.feed s with ⟨f | o, s'⟩
  · have hfails := htake.trans (Act.bind_error hjob _)
    by_cases hf : f = .interrupted
    · subst hf
      rw [takeWhole_of_interrupted hfails]
      rfl
    · rw [takeWhole_of_fails hf hfails]
      cases f <;> first | rfl | exact absurd rfl hf
  · rw [takeWhole_of_ok (htake.trans (Act.bind_ok hjob _))]
    cases o <;> rfl

/-- From one place to the next what the reading comes to stays the same. -/
theorem Step.read_eq {done? : Option (Job × Outcome)} (h : Step p done? q) : p.read = q.read := by
  cases h with
  | @rest text rest r s hmeets hplan =>
    have htake : takeLine p.feed p.interactive p.reading (Text.chomp text) s = (.ok (true, r), s) := by
      rw [takeLine_eq_follow, show Console.plan _ _ _ = _ from hplan]
      rfl
    rw [read_of_meets hmeets, takeWhole_of_ok htake]
    rfl
  | @done j r rest o s s' hasks hjob ho =>
    rw [read_of_asks hasks, hjob]
    cases o <;> first | rfl | exact absurd rfl ho
  | broken hasks hjob => rw [read_of_asks hasks, hjob]
  | interrupted hready hfetch => rw [read_of_ready hready, hfetch]

theorem Closes.read_eq {x : Except Failure Outcome × Scene Console} (h : Closes p x) : p.read = x := by
  cases h with
  | halted h => exact read_of_done h
  | exhausted hready hfetch => rw [read_of_ready hready, hfetch]
  | stopped hasks hjob => rw [read_of_asks hasks, hjob]
  | lost hready hfetch => rw [read_of_ready hready, hfetch]
  | @unjudged text rest s hmeets hplan =>
    have htake : takeLine p.feed p.interactive p.reading (Text.chomp text) s =
        (.error .zeroCharacter, s) := by
      rw [takeLine_eq_follow, show Console.plan _ _ _ = _ from hplan]
      rfl
    rw [read_of_meets hmeets, takeWhole_of_fails (by decide) htake]
    rfl
  | @failed j r rest f s s' hasks hjob hf =>
    rw [read_of_asks hasks, hjob]
    cases f <;> first | rfl | exact absurd rfl hf

/-- At every place the reading goes on or ends. -/
theorem step_or_closes (p : Place) :
    (∃ done? q, Step p done? q) ∨ ∃ x, Closes p x := by
  obtain ⟨ready, s, hready⟩ := isReady_ok p.interactive p.reading p.scene
  cases ready with
  | false => exact .inr ⟨_, .halted hready⟩
  | true =>
    cases hfetch : p.input.fetch s.world with
    | interrupt rest => exact .inl ⟨_, _, .interrupted hready hfetch⟩
    | nothing => exact .inr ⟨_, .exhausted hready hfetch⟩
    | failed f => exact .inr ⟨_, .lost hready hfetch⟩
    | line text rest =>
      have hmeets : p.Meets text rest s := ⟨hready, hfetch⟩
      cases hplan : p.plan text with
      | rest r => exact .inl ⟨_, _, .rest hmeets hplan⟩
      | unjudged => exact .inr ⟨_, .unjudged hmeets hplan⟩
      | job j r =>
        have hasks : p.Asks j r rest s := ⟨text, hmeets, hplan⟩
        rcases hjob : j.perform p.feed s with ⟨f | o, s'⟩
        · by_cases hf : f = .interrupted
          · subst hf
            exact .inl ⟨_, _, .broken hasks hjob⟩
          · exact .inr ⟨_, .failed hasks hjob hf⟩
        · by_cases ho : o = .stop
          · subst ho
            exact .inr ⟨_, .stopped hasks hjob⟩
          · exact .inl ⟨_, _, .done hasks hjob ho⟩

/-! There is one way on from a place. -/

section Unique
variable {text text' : List Char} {rest rest' : Input} {j j' : Job} {r r' : Reading}

theorem Place.IsReady.unique (h : p.IsReady s) (h' : p.IsReady s') : s = s' :=
  congrArg Prod.snd (h.symm.trans h')

theorem Place.Meets.unique (h : p.Meets text rest s) (h' : p.Meets text' rest' s') :
    text = text' ∧ rest = rest' ∧ s = s' := by
  obtain rfl := h.ready.unique h'.ready
  cases h.fetch.symm.trans h'.fetch
  exact ⟨rfl, rfl, rfl⟩

theorem Place.Asks.unique (h : p.Asks j r rest s) (h' : p.Asks j' r' rest' s') :
    j = j' ∧ r = r' ∧ rest = rest' ∧ s = s' := by
  obtain ⟨text, hmeets, hplan⟩ := h.meets
  obtain ⟨text', hmeets', hplan'⟩ := h'.meets
  obtain ⟨rfl, rfl, rfl⟩ := hmeets.unique hmeets'
  cases hplan.symm.trans hplan'
  exact ⟨rfl, rfl, rfl, rfl⟩

/-- Where a line asks for a job every step does it. -/
theorem Step.of_asks {done? : Option (Job × Outcome)} (h : Step p done? q) (hasks : p.Asks j r rest s) :
    (∃ o s', j.perform p.feed s = (.ok o, s') ∧ done? = some (j, o) ∧
        q = p.onward rest (r.after o).2 s') ∨
      ∃ s', j.perform p.feed s = (.error .interrupted, s') ∧ done? = none ∧
        q = p.onward rest p.reading.drop (interrupt p.interactive s').2 := by
  cases h with
  | rest hmeets hplan =>
    obtain ⟨text', hmeets', hplan'⟩ := hasks.meets
    obtain ⟨rfl, -, -⟩ := hmeets.unique hmeets'
    cases hplan.symm.trans hplan'
  | done hasks' hjob =>
    obtain ⟨rfl, rfl, rfl, rfl⟩ := hasks.unique hasks'
    exact .inl ⟨_, _, hjob, rfl, rfl⟩
  | broken hasks' hjob =>
    obtain ⟨rfl, rfl, rfl, rfl⟩ := hasks.unique hasks'
    exact .inr ⟨_, hjob, rfl, rfl⟩
  | interrupted hready hfetch =>
    obtain ⟨text', hmeets, -⟩ := hasks.meets
    obtain rfl := hready.unique hmeets.ready
    cases hfetch.symm.trans hmeets.fetch

end Unique

/-! What a step leaves as it is. -/

namespace Step
variable {done? : Option (Job × Outcome)}

theorem frame (h : Step p done? q) :
    q.depth = p.depth ∧ q.interactive = p.interactive ∧ q.input.size < p.input.size := by
  cases h with
  | rest hmeets =>
    obtain ⟨hsize, hsame⟩ := Input.fetch_line hmeets.fetch
    exact ⟨rfl, hsame, hsize⟩
  | done hasks =>
    obtain ⟨text, hmeets, -⟩ := hasks.meets
    obtain ⟨hsize, hsame⟩ := Input.fetch_line hmeets.fetch
    exact ⟨rfl, hsame, hsize⟩
  | broken hasks =>
    obtain ⟨text, hmeets, -⟩ := hasks.meets
    obtain ⟨hsize, hsame⟩ := Input.fetch_line hmeets.fetch
    exact ⟨rfl, hsame, hsize⟩
  | interrupted hready hfetch =>
    obtain ⟨hsize, hsame⟩ := Input.fetch_interrupt hfetch
    exact ⟨rfl, hsame, hsize⟩

end Step

/-- A place that reading has come through, and what was done there. -/
structure Turn where
  place : Place
  done? : Option (Job × Outcome)

/-- A job was done that ended with an error. -/
def Turn.Failed (t : Turn) : Prop := ∃ j, t.done? = some (j, .error)

/-- Reading comes from one place in an input to another through these. -/
inductive Course : Place → List Turn → Place → Prop where
  | here (p : Place) : Course p [] p
  | step {p q q' : Place} {done? : Option (Job × Outcome)} {l : List Turn} (h : Step p done? q)
      (hrest : Course q l q') : Course p (⟨p, done?⟩ :: l) q'

namespace Course
variable {l : List Turn}

theorem read_eq (h : Course p l q) : p.read = q.read := by
  induction h with
  | here => rfl
  | step hstep _ ih => exact hstep.read_eq.trans ih

theorem interactive_eq (h : Course p l q) : q.interactive = p.interactive := by
  induction h with
  | here => rfl
  | step hstep _ ih => exact ih.trans hstep.frame.2.1

/-- The last of the turns, if there is any. -/
theorem last (h : Course p l q) :
    (l = [] ∧ q = p) ∨
      ∃ l' t, l = l' ++ [t] ∧ Course p l' t.place ∧ Step t.place t.done? q := by
  induction h with
  | here p => exact .inl ⟨rfl, rfl⟩
  | @step p q q' done? l hstep hrest ih =>
    right
    rcases ih with ⟨rfl, rfl⟩ | ⟨l', t, rfl, hbefore, hlast⟩
    · exact ⟨[], ⟨p, done?⟩, rfl, .here p, hstep⟩
    · exact ⟨⟨p, done?⟩ :: l', t, rfl, .step hstep hbefore, hlast⟩

end Course

/-- Every reading comes to a place where it ends. -/
theorem exists_course (p : Place) : ∃ l q, Course p l q ∧ Closes q p.read := by
  induction hsize : p.input.size using Nat.strongRecOn generalizing p with
  | ind n ih =>
    rcases step_or_closes p with ⟨done?, q, hstep⟩ | ⟨x, hcloses⟩
    · obtain ⟨l, q', hcourse, hcloses⟩ := ih _ (hsize ▸ hstep.frame.2.2) q rfl
      exact ⟨_, q', .step hstep hcourse, hstep.read_eq ▸ hcloses⟩
    · exact ⟨[], p, .here p, hcloses.read_eq ▸ hcloses⟩

end SqlConsole.Console

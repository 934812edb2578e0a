import SqlConsole.Proofs.Console.Block

/-! Input that is not interactive as a sequence of blocks of lines, and what is left over of it. -/
namespace SqlConsole.Console

variable {feed : Source → Act Console Outcome} {r : Reading} {number errors : Nat}
  {held : List (List Char)}

/-- One more line is read: no error has to end the input, and the user has not stopped it. -/
def Ready (errors : Nat) (s : Scene Console) : Prop :=
  (errors = 0 ∨ s.own.session.settings.bail = false) ∧ s.own.interrupted = false

/-- How many errors an outcome adds. -/
def Outcome.count : Outcome → Nat
  | error => 1
  | _ => 0

private theorem after_eq {o : Outcome} (ho : o ≠ .stop) (r : Reading) :
    r.after o = (true, { r with errors := r.errors + o.count }) := by
  cases o with
  | success => rfl
  | error => rfl
  | stop => exact absurd rfl ho

/-- Blocks that are dealt with one after the other, from line `number` on and with that many errors
before, and how far that leads. -/
inductive Performs (feed : Source → Act Console Outcome) :
    Nat → Nat → Scene Console → List Block → Nat → Nat → Scene Console → Prop where
  | nil (number errors : Nat) (s : Scene Console) : Performs feed number errors s [] number errors s
  | cons {number errors number' errors' : Nat} {s s₁ s₂ : Scene Console} {b : Block}
      {bs : List Block} {o : Outcome} (hready : Ready errors s) (hb : b.Valid)
      (ho : b.perform feed number s = (.ok o, s₁)) (hgo : o ≠ .stop)
      (hbs : Performs feed (number + b.lines.length) (errors + o.count) s₁ bs number' errors' s₂) :
      Performs feed number errors s (b :: bs) number' errors' s₂

/-- What is left when reading ends: gathered lines and a number of errors. -/
def remaining (held : List (List Char)) (errors : Nat) : Reading := { buffer := joined held, errors }

/-- How input ends behind a number of blocks, with the last lines that were read and the lines that
were not. Lines that more would have to follow are left over, or the last block ends the input. -/
inductive Ends (feed : Source → Act Console Outcome) (number errors : Nat) (s : Scene Console) :
    List (List Char) → List (List Char) → Except Failure Outcome × Scene Console → Prop where
  | exhausted {held : List (List Char)} (hopen : Open held) (hready : Ready errors s) :
      Ends feed number errors s held [] (conclude (remaining held errors) s)
  | halted {held : List (List Char)} (rest : List (List Char)) (hopen : Open held)
      (hready : ¬ Ready errors s) :
      Ends feed number errors s held rest (conclude (remaining held errors) s)
  | stopped {b : Block} {s₁ : Scene Console} (rest : List (List Char)) (hready : Ready errors s)
      (hb : b.Valid) (ho : b.perform feed number s = (.ok .stop, s₁)) :
      Ends feed number errors s b.lines rest (conclude (remaining [] errors) s₁)
  | interrupted {b : Block} {s₁ : Scene Console} (rest : List (List Char)) (hready : Ready errors s)
      (hb : b.Valid) (ho : b.perform feed number s = (.error .interrupted, s₁)) :
      Ends feed number errors s b.lines rest
        (conclude (remaining [] errors) (interrupt false s₁).2)
  | failed {b : Block} {s₁ : Scene Console} {f : Failure} (rest : List (List Char))
      (hready : Ready errors s) (hb : b.Valid) (hf : f ≠ .interrupted)
      (ho : b.perform feed number s = (.error f, s₁)) :
      Ends feed number errors s b.lines rest (.error f, s₁)
  | unjudged {held : List (List Char)} (line : List Char) (rest : List (List Char))
      (hopen : Open held) (hready : Ready errors s) (hj : ¬ Statement.isJudged (joined (held ++ [line]))) :
      Ends feed number errors s (held ++ [line]) rest (.error .zeroCharacter, s)

theorem isReady_of_ready {s : Scene Console} (h : Ready r.errors s) :
    isReady false r s = (.ok true, s) := by
  obtain ⟨hbail, hi⟩ := h
  have hsame : { s with own := { s.own with interrupted := false } } = s := by
    rw [← hi]
  have hgo : isReady false r s =
      (.ok true, { s with own := { s.own with interrupted := false } }) := by
    unfold isReady
    rw [Act.bind_ok (show Act.own s = (.ok s.own, s) from rfl), if_neg, if_neg]
    · rfl
    · simp [hi]
    · rcases hbail with hb | hb <;> simp [hb]
  rw [hgo, hsame]

theorem isReady_of_not_ready {s : Scene Console} (h : ¬ Ready r.errors s) :
    isReady false r s = (.ok false, s) := by
  unfold isReady
  rw [Act.bind_ok (show Act.own s = (.ok s.own, s) from rfl)]
  by_cases hbail : r.errors = 0 ∨ s.own.session.settings.bail = false
  · have hi : s.own.interrupted = true := by
      simpa [Ready, hbail] using h
    rw [if_neg, if_pos]
    · rfl
    · simp [hi]
    · rcases hbail with hb | hb <;> simp [hb]
  · obtain ⟨he, hb⟩ := not_or.1 hbail
    rw [if_pos]
    · rfl
    · simp [he, hb]

private theorem conclude_eq (h : Holds r number errors held) :
    conclude r = conclude (remaining held errors) := by
  unfold conclude
  rw [h.buffer, h.errors]
  rfl

private theorem readItems_of_not_ready {s : Scene Console} (h : ¬ Ready r.errors s)
    (items : List Item) : readItems feed false r items s = conclude r s := by
  cases items with
  | nil => exact Act.bind_ok (isReady_of_not_ready h) _
  | cons item items => exact Act.bind_ok (isReady_of_not_ready h) _

theorem interrupt_eq (interactive : Bool) (s : Scene Console) :
    interrupt interactive s = (.ok (), (interrupt interactive s).2) ∧
      (interrupt interactive s).2.own.interrupted = true := by
  obtain ⟨w, session, db, filename, fileSystem, interrupted, _, exitCode⟩ := s
  cases db <;> cases interactive <;> exact ⟨rfl, rfl⟩

theorem takeWhole_of_fails {interactive : Bool} {f : Failure} {s s₁ : Scene Console}
    {text : List Char} (hf : f ≠ .interrupted)
    (h : takeLine feed interactive r (Text.chomp text) s = (.error f, s₁)) :
    takeWhole feed interactive r text s = (.error f, s₁) := by
  rw [takeWhole, Act.bind_ok (show Act.attempt _ s = (.ok (.error f), s₁) by rw [Act.attempt, h])]
  cases f <;> first | rfl | exact absurd rfl hf

theorem takeWhole_of_ok {interactive : Bool} {x : Bool × Reading} {s s₁ : Scene Console}
    {text : List Char} (h : takeLine feed interactive r (Text.chomp text) s = (.ok x, s₁)) :
    takeWhole feed interactive r text s = (.ok x, s₁) := by
  rw [takeWhole, Act.bind_ok (show Act.attempt _ s = (.ok (.ok x), s₁) by rw [Act.attempt, h])]
  rfl

theorem takeWhole_of_interrupted {interactive : Bool} {s s₁ : Scene Console} {text : List Char}
    (h : takeLine feed interactive r (Text.chomp text) s = (.error .interrupted, s₁)) :
    takeWhole feed interactive r text s =
      (.ok (true, r.drop), (interrupt interactive s₁).2) := by
  rw [takeWhole, Act.bind_ok (show Act.attempt _ s = (.ok (.error .interrupted), s₁) by
    rw [Act.attempt, h])]
  exact Act.bind_ok (interrupt_eq interactive s₁).1 _

theorem readItems_line {s : Scene Console} {text : List Char} (hready : Ready r.errors s)
    (htext : text ≠ []) (items : List Item) :
    readItems feed false r (.line text :: items) s = (do
      match ← takeWhole feed false r text with
      | (true, r) => readItems feed false r items
      | (false, r) => conclude r) s := by
  cases text with
  | nil => exact absurd rfl htext
  | cons c text => exact Act.bind_ok (isReady_of_ready hready) _

/-- A line after which reading goes on. -/
theorem readItems_of_taken {r' : Reading} {s s₁ : Scene Console} {text : List Char}
    (hready : Ready r.errors s) (htext : text ≠ [])
    (h : takeLine feed false r (Text.chomp text) s = (.ok (true, r'), s₁)) (items : List Item) :
    readItems feed false r (.line text :: items) s = readItems feed false r' items s₁ := by
  rw [readItems_line hready htext, Act.bind_ok (takeWhole_of_ok h)]

theorem readItems_nil {s : Scene Console} (hready : Ready r.errors s) :
    readItems feed false r [] s = conclude r s := Act.bind_ok (isReady_of_ready hready) _

/-- A block that is at its end with a line either ends the input, or reading goes on behind it. -/
private theorem readItems_of_ended {r' : Reading} {b : Block} {s : Scene Console}
    {text : List Char} (h : r.errors = errors) (hready : Ready errors s) (htext : text ≠ [])
    (hb : b.Valid) (hr : Holds r' (number + b.lines.length) errors [])
    (hx : takeLine feed false r (Text.chomp text) s =
      (do pure (r'.after (← b.perform feed number))) s)
    (items : List Item) (rest : List (List Char)) :
    (∃ o s₁, b.perform feed number s = (.ok o, s₁) ∧ o ≠ .stop ∧
      readItems feed false r (.line text :: items) s =
        readItems feed false { r' with errors := r'.errors + o.count } items s₁) ∨
      Ends feed number errors s b.lines rest (readItems feed false r (.line text :: items) s) := by
  subst h
  rw [readItems_line hready htext]
  rcases ho : b.perform feed number s with ⟨f | o, s₁⟩
  · right
    have hx := hx.trans (Act.bind_error ho _)
    by_cases hf : f = .interrupted
    · subst hf
      have hunready : ¬ Ready r.drop.errors (interrupt false s₁).2 := fun hready => by
        have := hready.2
        rw [(interrupt_eq false s₁).2] at this
        cases this
      have hdrop : Holds r.drop (r.lines + 2) r.errors [] :=
        ⟨rfl, rfl, rfl, fun hne => absurd rfl hne⟩
      rw [Act.bind_ok (takeWhole_of_interrupted hx)]
      show Ends feed number r.errors s b.lines rest
        (readItems feed false r.drop items (interrupt false s₁).2)
      rw [readItems_of_not_ready hunready, conclude_eq hdrop]
      exact .interrupted rest hready hb ho
    · rw [Act.bind_error (takeWhole_of_fails hf hx)]
      exact .failed rest hready hb hf ho
  · have hx := hx.trans (Act.bind_ok ho _)
    rw [Act.bind_ok (takeWhole_of_ok hx)]
    by_cases hgo : o = .stop
    · subst hgo
      right
      show Ends feed number r.errors s b.lines rest (conclude r' s₁)
      rw [conclude_eq hr]
      exact .stopped rest hready hb ho
    · left
      refine ⟨o, s₁, rfl, hgo, ?_⟩
      rw [after_eq hgo]

/-- Input from any place in a block on is a number of blocks and an end. -/
theorem readItems_blocks {texts : List (List Char)} (hne : ∀ t ∈ texts, t ≠ [])
    (h : Holds r number errors held) (hopen : Open held) (s : Scene Console) :
    ∃ blocks tail rest number' errors' s₁,
      held ++ texts.map Text.chomp = blocks.flatMap Block.lines ++ tail ++ rest ∧
      Performs feed number errors s blocks number' errors' s₁ ∧
      Ends feed number' errors' s₁ tail rest (readItems feed false r (texts.map .line) s) := by
  induction texts generalizing r number errors held s with
  | nil =>
    refine ⟨[], held, [], number, errors, s, by simp, .nil _ _ _, ?_⟩
    by_cases hready : Ready errors s
    · have hend : readItems feed false r [] s = conclude r s := readItems_nil (h.errors ▸ hready)
      rw [List.map_nil, hend, conclude_eq h]
      exact .exhausted hopen hready
    · rw [readItems_of_not_ready (h.errors ▸ hready), conclude_eq h]
      exact .halted [] hopen hready
  | cons text texts ih =>
    obtain ⟨htext, htexts⟩ := List.forall_mem_cons.1 hne
    by_cases hready : Ready errors s
    · have ht : Takes feed number errors held (Text.chomp text) s _ :=
        takeLine_takes h hopen (Text.chomp text) s
      generalize hx : takeLine feed false r (Text.chomp text) s = x at ht
      rw [List.map_cons, List.map_cons]
      cases ht with
      | @gathered r' hopen' hr =>
        obtain ⟨blocks, tail, rest, number', errors', s₁, hall, hps, hends⟩ :=
          ih htexts hr hopen' s
        refine ⟨blocks, tail, rest, number', errors', s₁, by rw [← hall]; simp, hps, ?_⟩
        rw [readItems_of_taken (h.errors ▸ hready) htext hx]
        exact hends
      | @ended b r' hl hb hr =>
        rcases readItems_of_ended h.errors hready htext hb hr hx (texts.map .line)
          (texts.map Text.chomp) with ⟨o, s₁, ho, hgo, hrun⟩ | hends
        · have hr' : Holds { r' with errors := r'.errors + o.count } (number + b.lines.length)
              (errors + o.count) [] := ⟨hr.buffer, by rw [← hr.errors], hr.lines, hr.start⟩
          obtain ⟨blocks, tail, rest, number', errors', s₂, hall, hps, hends⟩ :=
            ih htexts hr' .nil s₁
          refine ⟨b :: blocks, tail, rest, number', errors', s₂, ?_, .cons hready hb ho hgo hps, ?_⟩
          · rw [List.flatMap_cons, hl]
            simpa using hall
          · rw [hrun]
            exact hends
        · exact ⟨[], b.lines, texts.map Text.chomp, number, errors, s, by simp [hl], .nil _ _ _,
            hends⟩
      | unjudged hj =>
        refine ⟨[], held ++ [Text.chomp text], texts.map Text.chomp, number, errors, s, by simp,
          .nil _ _ _, ?_⟩
        rw [readItems_line (h.errors ▸ hready) htext,
          Act.bind_error (takeWhole_of_fails (by decide) hx)]
        exact .unjudged _ _ hopen hready hj
    · refine ⟨[], held, (text :: texts).map Text.chomp, number, errors, s, by simp, .nil _ _ _, ?_⟩
      rw [readItems_of_not_ready (h.errors ▸ hready), conclude_eq h]
      exact .halted _ hopen hready

private theorem ne_nil_of_mem_attach {c : Char} {ls : List (List Char)} (h : ∀ l ∈ ls, l ≠ []) :
    ∀ l ∈ Text.attach c ls, l ≠ [] := by
  cases ls with
  | nil => simp [Text.attach]
  | cons l ls => simpa [Text.attach] using fun l hl => h l (List.mem_cons_of_mem _ hl)

private theorem ne_nil_of_mem_lines (s : List Char) : ∀ l ∈ Text.lines s, l ≠ [] := by
  fun_induction Text.lines s with
  | case1 => simp
  | case2 r ih => simpa using ih
  | case3 c r hc ih => exact ne_nil_of_mem_attach ih

/-- Input falls into blocks of lines, each dealt with once and in order. What is left over when it
ends belongs to no block. -/
theorem readInput_blocks (text : List Char) (s : Scene Console) :
    ∃ blocks tail rest number errors s₁,
      (Text.lines text).map Text.chomp = blocks.flatMap Block.lines ++ tail ++ rest ∧
      Performs readSource 1 0 s blocks number errors s₁ ∧
      Ends readSource number errors s₁ tail rest (readInput false (inputOfText text) s) := by
  have hstart : Holds {} 1 0 [] := ⟨rfl, rfl, rfl, fun hne => absurd rfl hne⟩
  exact readItems_blocks (ne_nil_of_mem_lines text) hstart .nil s

/-- A scene with nothing done yet. -/
def untouched : Scene Console := { world := {}, own := {} }

/-- A terminator in an open quote stays as it is, even where it is the last line of its block. -/
theorem terminator_in_quote :
    Statement.isTerminator "/--';".toList ∧
      (readInput false (inputOfText "'\n/--';\n".toList) untouched).2.world.given =
        ["'\n/--';"] := by
  refine ⟨rfl, ?_⟩
  have hquote : Statement.endsAtSemicolon ['\x27'] = false := by
    rw [Statement.endsAtSemicolon, Statement.isComplete]
    unfold Statement.isCompleteFrom
    rfl
  have hread : Statement.Reads "'\n/--';".toList
      [⟨.other, "'\n/--'".toList⟩, ⟨.semicolon, [';']⟩] [] := .cons rfl (.cons rfl (.nil []))
  have hcomplete : Statement.isComplete "'\n/--';".toList = true := hread.isComplete_eq
  have hparts : Statement.parts "'\n/--';".toList = ["'\n/--';".toList] :=
    Statement.parts_of_reads hread
  obtain ⟨hrun, hgiven, hgo⟩ : runWhole "'\n/--';" (some 1) untouched =
      (.ok .success, (runWhole "'\n/--';" (some 1) untouched).2) ∧
      (runWhole "'\n/--';" (some 1) untouched).2.world.given = ["'\n/--';"] ∧
      (runWhole "'\n/--';" (some 1) untouched).2.own.interrupted = false := by
    simp only [runWhole, runSql, Execute.run, Statement.runnable, Statement.isSettled, hparts]
    exact ⟨rfl, rfl, rfl⟩
  have hready : Ready 0 untouched := ⟨Or.inl rfl, rfl⟩
  have hfirst : takeLine readSource false {} (Text.chomp "'\n".toList) untouched =
      (.ok (true, { buffer := ['\x27'], startLine := 1, lines := 1 }), untouched) := rfl
  have hassemble : assemble ['\x27'] "/--';".toList untouched = (.ok "/--';".toList, untouched) := by
    unfold assemble judge
    rw [hquote]
    rfl
  have hfull : isFull "'\n/--';".toList "/--';".toList untouched = (.ok true, untouched) := by
    unfold isFull judge
    rw [hcomplete]
    rfl
  have hsecond : takeLine readSource false { buffer := ['\x27'], startLine := 1, lines := 1 }
      (Text.chomp "/--';\n".toList) untouched =
      (.ok (true, { startLine := 1, lines := 2 }), (runWhole "'\n/--';" (some 1) untouched).2) :=
    (Act.bind_ok hassemble _).trans ((Act.bind_ok hfull _).trans (Act.bind_ok hrun _))
  have hlast : Ready 0 (runWhole "'\n/--';" (some 1) untouched).2 := ⟨Or.inl rfl, hgo⟩
  have hall : readInput false (inputOfText "'\n/--';\n".toList) untouched =
      (.ok .success, (runWhole "'\n/--';" (some 1) untouched).2) := by
    refine (readItems_line hready (by decide) _).trans ?_
    refine (Act.bind_ok (takeWhole_of_ok hfirst) _).trans ?_
    refine (readItems_line hready (by decide) _).trans ?_
    refine (Act.bind_ok (takeWhole_of_ok hsecond) _).trans ?_
    exact Act.bind_ok (isReady_of_ready hlast) _
  rw [hall, hgiven]

end SqlConsole.Console

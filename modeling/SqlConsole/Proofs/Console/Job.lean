import SqlConsole.Console.Input
import SqlConsole.Proofs.World.Discreet

/-! What a line of input asks for, told before anything is done: a dot command, SQL text that it
completes, or nothing as yet. -/
namespace SqlConsole.Console

inductive Job where
  | command (line : List Char)
  /-- SQL text, and the line that it starts on if errors are to tell it. -/
  | sql (text : String) (line? : Option Int)
  deriving DecidableEq, Repr

/-- The line that SQL text starts on, if errors are to tell it. -/
def toldLine (interactive : Bool) (line : Int) : Option Int := if interactive then none else some line

namespace Job

def perform (feed : Source → Act Console Outcome) : Job → Act Console Outcome
  | command line => commandLine feed line
  | sql text line? => runWhole text line?

/-- The jobs are the same but for the line that errors tell, which depends on whether the inputs that
they are from are interactive. -/
inductive Alike (interactive interactive' : Bool) : Job → Job → Prop where
  | command (line : List Char) : Alike interactive interactive' (command line) (command line)
  | sql (text : String) (line : Int) :
      Alike interactive interactive' (sql text (toldLine interactive line))
        (sql text (toldLine interactive' line))

end Job

/-- What is to be done with a line, and how far reading has come with it. -/
inductive Plan where
  | rest (r : Reading)
  | job (j : Job) (r : Reading)
  /-- The engine cannot judge the text. -/
  | unjudged
  deriving DecidableEq, Repr

namespace Plan

def follow (feed : Source → Act Console Outcome) : Plan → Act Console (Bool × Reading)
  | rest r => pure (true, r)
  | job j r => do pure (r.after (← j.perform feed))
  | unjudged => Act.fail .zeroCharacter

/-- What is planned after a test of SQL text. -/
def judged (test : List Char → Bool) (s : List Char) (plan : Bool → Plan) : Plan :=
  if Statement.isJudged s then plan (test s) else unjudged

inductive Alike (interactive interactive' : Bool) : Plan → Plan → Prop where
  | rest (r : Reading) : Alike interactive interactive' (rest r) (rest r)
  | job {j j' : Job} (h : j.Alike interactive interactive' j') (r : Reading) :
      Alike interactive interactive' (job j r) (job j' r)
  | unjudged : Alike interactive interactive' unjudged unjudged

end Plan

/-- What is to be done with SQL that has been gathered with its last line. -/
def planGathered (interactive : Bool) (r : Reading) (line : List Char) : Plan :=
  let remaining : Plan := .rest (if Statement.isBlank r.buffer then r.clear else r)
  let whole : Plan :=
    .job (.sql (String.ofList r.buffer) (toldLine interactive r.startLine)) r.clear
  if line.contains ';' then .judged Statement.isComplete r.buffer fun full =>
    if full then whole else remaining
  else remaining

def planSql (interactive : Bool) (r : Reading) (line : List Char) : Plan :=
  let gathered (line : List Char) : Plan := planGathered interactive (r.gather line) line
  if Statement.isTerminator line then .judged Statement.endsAtSemicolon r.buffer fun ends =>
    gathered (if ends then [';'] else line)
  else gathered line

def plan (interactive : Bool) (r : Reading) (line : List Char) : Plan :=
  let r := { r with lines := r.lines + 1 }
  if r.buffer.isEmpty && Statement.isBlank line then .rest r
  else if r.buffer.isEmpty && line.head? == some '.' then .job (.command line) r
  else planSql interactive r line

variable {feed : Source → Act Console Outcome} {interactive : Bool} {r r' : Reading}
  {line : List Char} {j : Job}

private theorem judge_bind (test : List Char → Bool) (s : List Char)
    {plan : Bool → Plan} {f : Bool → Act Console (Bool × Reading)}
    (hf : ∀ b, f b = (plan b).follow feed) :
    judge test s >>= f = (Plan.judged test s plan).follow feed := by
  unfold judge Plan.judged
  split
  · rw [pure_bind]
    exact hf _
  · rfl

private theorem gathered_eq (r : Reading) (line : List Char) :
    (do
      if ← isFull r.buffer line then do
        let line? : Option Int := if interactive then none else some r.startLine
        pure (r.clear.after (← runWhole (String.ofList r.buffer) line?))
      else pure (true, if Statement.isBlank r.buffer then r.clear else r)) =
      (planGathered interactive r line).follow feed := by
  unfold isFull planGathered
  dsimp only
  split
  · apply judge_bind
    intro full
    cases full <;> rfl
  · rfl

private theorem takeSql_eq (r : Reading) (line : List Char) :
    takeSql interactive r line = (planSql interactive r line).follow feed := by
  unfold takeSql assemble planSql
  dsimp only
  split
  · rw [bind_assoc]
    apply judge_bind
    intro ends
    rw [pure_bind]
    exact gathered_eq _ _
  · rw [pure_bind]
    exact gathered_eq _ _

/-- Taking a line is following its plan. -/
theorem takeLine_eq_follow (feed : Source → Act Console Outcome) (interactive : Bool) (r : Reading)
    (line : List Char) : takeLine feed interactive r line = (plan interactive r line).follow feed := by
  unfold takeLine plan
  dsimp only
  split
  · rfl
  · split
    · rfl
    · exact takeSql_eq _ _

/-! What is planned depends on whether the input is interactive in the lines that errors tell alone. -/

section Alike
variable {interactive' : Bool}

private theorem alike_judged {test : List Char → Bool} {s : List Char} {plan plan' : Bool → Plan}
    (h : ∀ b, (plan b).Alike interactive interactive' (plan' b)) :
    (Plan.judged test s plan).Alike interactive interactive' (.judged test s plan') := by
  unfold Plan.judged
  split
  · exact h _
  · exact .unjudged

private theorem alike_gathered (r : Reading) (line : List Char) :
    (planGathered interactive r line).Alike interactive interactive'
      (planGathered interactive' r line) := by
  unfold planGathered
  dsimp only
  split
  · apply alike_judged
    intro full
    cases full with
    | false => exact .rest _
    | true => exact .job (.sql _ _) _
  · exact .rest _

theorem alike_plan (interactive interactive' : Bool) (r : Reading) (line : List Char) :
    (plan interactive r line).Alike interactive interactive' (plan interactive' r line) := by
  unfold plan planSql
  dsimp only
  split
  · exact .rest _
  · split
    · exact .job (.command _) _
    · split
      · apply alike_judged
        intro ends
        exact alike_gathered _ _
      · exact alike_gathered _ _

end Alike

/-- SQL text never asks to read no more. -/
theorem runWhole_ne_stop {sql : String} {line? : Option Int} {s s' : Scene Console} :
    runWhole sql line? s ≠ (.ok .stop, s') := by
  unfold runWhole
  rw [Act.bind_apply]
  rcases runSql sql line? s with ⟨f | n, s₁⟩
  · nofun
  · intro h
    cases n <;> cases h

/-! A plan leaves the errors as they are, and comes one line further. Nothing stays gathered when there
is a job to do, and nothing was gathered before a dot command. -/

/-- What a plan keeps of how far reading has come. -/
def Plan.Continues (r : Reading) : Plan → Prop
  | rest r' => r'.errors = r.errors ∧ r'.lines = r.lines
  | job j r' => r'.errors = r.errors ∧ r'.lines = r.lines ∧ r'.buffer = [] ∧
      ∀ line, j = .command line → r.buffer = []
  | unjudged => True

private theorem continues_judged {test : List Char → Bool} {s : List Char} {plan : Bool → Plan}
    (h : ∀ b, (plan b).Continues r) : (Plan.judged test s plan).Continues r := by
  unfold Plan.judged
  split
  · exact h _
  · trivial

private theorem continues_gathered (line last : List Char) :
    (planGathered interactive (r.gather line) last).Continues r := by
  have hgather : (r.gather line).errors = r.errors ∧ (r.gather line).lines = r.lines := by
    unfold Reading.gather
    split <;> exact ⟨rfl, rfl⟩
  have hremaining : (Plan.rest (if Statement.isBlank (r.gather line).buffer then
      (r.gather line).clear else r.gather line)).Continues r := by
    split <;> exact hgather
  unfold planGathered
  dsimp only
  split
  · apply continues_judged
    intro full
    cases full with
    | false => exact hremaining
    | true => exact ⟨hgather.1, hgather.2, rfl, nofun⟩
  · exact hremaining

theorem continues_plan (interactive : Bool) (r : Reading) (line : List Char) :
    (plan interactive r line).Continues { r with lines := r.lines + 1 } := by
  unfold plan planSql
  dsimp only
  split
  · exact ⟨rfl, rfl⟩
  · split
    · rename_i hdot
      have hempty := List.isEmpty_iff.1 (Bool.and_eq_true_iff.1 hdot).1
      exact ⟨rfl, rfl, hempty, fun _ _ => hempty⟩
    · split
      · exact continues_judged fun _ => continues_gathered _ _
      · exact continues_gathered _ _

end SqlConsole.Console

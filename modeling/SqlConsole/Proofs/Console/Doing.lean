import SqlConsole.Proofs.Console.Hooks
import SqlConsole.Proofs.Console.Oblivious

/-! What the console does one thing after the other, told apart from where it is done, so that the same things
can be done elsewhere. -/
namespace SqlConsole.Console
open Act (Oblivious Respects)
open Scene (Related)

/-- One thing that the console may do. -/
inductive Doing where
  | line (text : List Char) (feed : Source → Act Console Outcome)
  | sql (text : String) (line? : Option Int)
  | connect
  /-- The user is told or shown something. -/
  | tell (k : Sink) (text : String)
  | event (e : Engine.Event)
  | settings (t : Settings)
  /-- Something changes that has to do neither with the session nor with the database. -/
  | rest (c : Console)

namespace Doing

def perform : Doing → Act Console Unit
  | line text feed => discard (dotLine feed text)
  | sql text line? => discard (runSql text line?)
  | connect => discard connection
  | tell k text => Act.note (.wrote k text)
  | event e => Act.event e
  | settings t => modifySettings fun _ => t
  | rest c => Act.modifyOwn fun now => { c with session := now.session, db := now.db }

/-- The scene after some things, whether they fail or not. -/
def after (doings : List Doing) (s : Scene Console) : Scene Console :=
  doings.foldl (fun s d => (d.perform s).2) s

/-- A line is of one kind and reads no file, and what is told goes to a stream of others. -/
def Only (P : List Char → Prop) : Doing → Prop
  | line text _ => P text ∧ ¬ IsReading text
  | tell k _ => k.isStream
  | _ => True

end Doing

variable {P : List Char → Prop} {s t : Scene Console} {d : Doing} {doings : List Doing}

theorem discard_snd {α : Type} (x : Act Console α) (s : Scene Console) :
    ((discard x : Act Console Unit) s).2 = (x s).2 := by
  rw [discard_apply]
  rcases x s with ⟨_ | _, _⟩ <;> rfl

/-- A move is to do one thing. -/
theorem Move.exists_doing (h : Move P s t) : ∃ d : Doing, d.Only P ∧ t = (d.perform s).2 := by
  cases h with
  | line hP hline feed => exact ⟨.line _ feed, ⟨hP, hline⟩, (discard_snd ..).symm⟩
  | sql sql line? => exact ⟨.sql sql line?, trivial, (discard_snd ..).symm⟩
  | opened => exact ⟨.connect, trivial, (discard_snd ..).symm⟩
  | wrote hk text => exact ⟨.tell _ text, hk, rfl⟩
  | interrupt => exact ⟨.event .interrupt, trivial, rfl⟩
  | history => exact ⟨.event _, trivial, rfl⟩
  | setting t => exact ⟨.settings t, trivial, rfl⟩
  | own c hsession hdb =>
    refine ⟨.rest c, trivial, ?_⟩
    show _ = Scene.mk s.world { c with session := s.own.session, db := s.own.db }
    rw [← hsession, ← hdb]

theorem Moves.exists_doings (h : Moves P s t) :
    ∃ doings, (∀ d ∈ doings, Doing.Only P d) ∧ t = Doing.after doings s := by
  induction h with
  | refl => exact ⟨[], List.forall_mem_nil _, rfl⟩
  | tail _ hmove ih =>
    obtain ⟨doings, hall, rfl⟩ := ih
    obtain ⟨d, hd, rfl⟩ := hmove.exists_doing
    refine ⟨doings ++ [d], fun d' hmem => ?_, by rw [Doing.after, Doing.after, List.foldl_concat]⟩
    rcases List.mem_append.1 hmem with hmem | hmem
    · exact hall d' hmem
    · rwa [List.mem_singleton.1 hmem]

/-! Nothing that is done goes by what was done before. -/

theorem dotLine_feed {line : List Char} (hline : ¬ IsReading line)
    (feed feed' : Source → Act Console Outcome) : dotLine feed line = dotLine feed' line := by
  by_cases hmeans : ∃ command arguments, Means line command arguments
  · obtain ⟨command, arguments, hmeans⟩ := hmeans
    rw [dotLine_of_means hmeans, dotLine_of_means hmeans]
    cases command with
    | read => exact absurd ⟨arguments, hmeans⟩ hline
    | _ => rfl
  · unfold dotLine
    split
    · rfl
    · rename_i typed arguments hwords
      split
      · rfl
      · exact absurd ⟨_, _, typed, hwords, ‹_›⟩ hmeans

theorem Doing.oblivious (h : d.Only P) : Oblivious d.perform := by
  cases d with
  | line line feed =>
    have hfeed : dotLine feed line = dotLine readSource line := dotLine_feed h.2 feed readSource
    exact .discard (hfeed ▸ oblivious_dotLine (oblivious_readNested _) line)
  | sql sql line? => exact .discard (oblivious_runSql sql line?)
  | connect => exact .discard oblivious_connection
  | tell k text => exact .note _
  | event e => exact .event e
  | settings t => exact oblivious_modifySettings fun _ => t
  | rest c => exact .modifyOwn fun now : Console => { c with session := now.session, db := now.db }

/-- What was done stays done. -/
theorem Moves.grows (h : Moves P s t) : s.world.past <:+ t.world.past := by
  induction h with
  | refl => exact List.suffix_rfl
  | tail _ hmove ih =>
    obtain ⟨d, hd, rfl⟩ := hmove.exists_doing
    exact ih.trans ((d.oblivious hd).suffix _)

/-! Things that are done alike in two scenes. -/

variable {K : Option Nat → Prop} {W : World → World → Prop} {S : Console → Prop}
  {D : Option Connection → Option Connection → Prop}

/-- `S` and `W` also allow sinks for output and for the log to be installed, the engine's log to be turned on
and off, and statements to be run. `S` goes by the session only. -/
structure Concord (K : Option Nat → Prop) (W : World → World → Prop) (S : Console → Prop)
    (D : Option Connection → Option Connection → Prop) : Prop extends Accord K W S D where
  putOutput {c : Console} {k : Sink} (h : S c) (hk : K k.id?) :
    S { c with session := { c.session with output := k } }
  putLog {c : Console} {k? : Option Sink} (h : S c) (hk : ∀ k ∈ k?, K k.id?) :
    S { c with session := { c.session with log := k? } }
  logging {w w' : World} (b : Bool) (h : W w w') : W { w with logging := b } { w' with logging := b }
  statement {w w' : World} (t : Option String) (h : W w w') :
    W { w with statement := t } { w' with statement := t }
  session {c c' : Console} (h : S c) (hsession : c'.session = c.session) : S c'

namespace Concord
variable (hC : Concord K W S D)
include hC

/-- Lines that do not have statements traced. -/
theorem line {line : List Char} (hretraces : ¬ Retraces line) (hline : ¬ IsReading line)
    (feed : Source → Act Console Outcome) : Respects (Related W (Sides S D)) (dotLine feed line) := by
  by_cases htrace : ∃ arguments, Means line .trace arguments
  · obtain ⟨arguments, hmeans⟩ := htrace
    have hfails (s : Scene Console) : dotLine feed line s = (.error .zeroCharacter, s) := by
      rcases trace_line hmeans feed s with ⟨hretraces', -⟩ | ⟨-, heq⟩
      · exact absurd hretraces' hretraces
      · exact heq
    rw [show dotLine feed line = Act.fail .zeroCharacter from funext hfails]
    exact .fail _
  · refine hC.dotLine fun command arguments hmeans => ?_
    by_cases hlog : command = .log
    · subst hlog
      exact .bind (hC.setLog (fun _ _ => hC.putLog) (fun _ _ b => hC.logging b) _) fun _ => .pure _
    · by_cases houtput : command = .output
      · subst houtput
        exact .bind (hC.setOutput (fun _ _ => hC.putOutput) _) fun _ => .pure _
      · refine hC.runCommand feed (not_mem_directing hlog houtput ?_) (hmeans.ne_read hline) arguments
        rintro rfl
        exact htrace ⟨arguments, hmeans⟩

theorem doing (hd : d.Only fun line => ¬ Retraces line) : Respects (Related W (Sides S D)) d.perform := by
  cases d with
  | line line feed => exact .discard (hC.line hd.1 hd.2 feed)
  | sql sql line? => exact .discard (hC.runSql (fun _ _ t => hC.statement t) sql line?)
  | connect => exact hC.connected fun _ _ _ => .pure ()
  | tell k text =>
    refine hC.steady.note ?_
    rw [Deed.Plain, Option.isNone_iff_eq_none.1 hd]
    exact hC.streams
  | event e => exact hC.steady.event e
  | settings t => exact hC.modifySettings _
  | rest c =>
    refine .modifyOwn fun c₁ c₁' h => ?_
    exact h.change (f := fun now => { c with session := now.session, db := now.db })
      (hC.session h.rest_left rfl) rfl fun _ => rfl

/-- By induction on what is done: each thing keeps the scenes related. -/
theorem after (hall : ∀ d ∈ doings, Doing.Only (fun line => ¬ Retraces line) d)
    (h : Related W (Sides S D) s t) :
    Related W (Sides S D) (Doing.after doings s) (Doing.after doings t) := by
  induction doings generalizing s t with
  | nil => exact h
  | cons d doings ih =>
    obtain ⟨hd, hrest⟩ := List.forall_mem_cons.1 hall
    exact ih hrest (hC.doing hd s t h).2

end Concord
end SqlConsole.Console

import SqlConsole.Proofs.Console.Copies
import SqlConsole.Proofs.Console.Installed

/-! What each dot command may change in the session, and in which ways it may fail. -/
namespace SqlConsole.Console
open Act (Ensures Safe)

/-- The argument is taken as yes or no, whatever the console does meanwhile. -/
def TakenAs (argument : String) (b : Bool) : Prop := ∀ s, (booleanArgument argument s).1 = .ok b

/-- Explain mode is turned on or off by these arguments. -/
def TurnsExplain (arguments : List String) (on : Bool) : Prop :=
  match arguments.head? with
  | none => on = true
  | some a => TakenAs a on

/-- Commands that choose settings, besides the one for explain mode. -/
def choosing : List Command :=
  [.bail, .echo, .headers, .mode, .nullvalue, .prompt, .separator, .stats, .timer, .width]

/-- Commands that choose where text goes. -/
def directing : List Command := [.log, .output, .trace]

/-- What a command may change in the session. Only the one for explain mode puts settings aside or takes
them back. -/
inductive Alters (command : Command) (arguments : List String) (session : Session) : Session → Prop where
  | nothing : Alters command arguments session session
  | settings (t : Settings) (hcommand : command ∈ choosing)
      (haside : t.beforeExplain = session.settings.beforeExplain) :
      Alters command arguments session { session with settings := t }
  | explain (on : Bool) (hcommand : command = .explain) (hon : TurnsExplain arguments on) :
      Alters command arguments session
        { session with
          settings := if on then session.settings.explained else session.settings.unexplained }
  | sinks {session' : Session} (hcommand : command ∈ directing)
      (hsettings : session'.settings = session.settings) : Alters command arguments session session'

/-- The arguments that a command reads as whole numbers. -/
def wholeNumbers : Command → List String → List String
  | .exit, l => l.head?.toList
  | .testctrl, l => [l.headD ""]
  | .timeout, l => [l.headD ""]
  | .width, l => l.take maxColumns
  | _, _ => []

/-- The arguments that a command reads as yes or no. -/
def switches : Command → List String → List String
  | .bail, l => [l.headD ""]
  | .echo, l => [l.headD ""]
  | .explain, l => l.head?.toList
  | .headers, l => [l.headD ""]
  | .stats, l => [l.headD ""]
  | .timer, l => [l.headD ""]
  | _, _ => []

/-- The arguments that a command opens files or commands by. -/
def fileNames : Command → List String → List String
  | .import_, l => [l.headD ""]
  | .log, l => [l.headD ""]
  | .output, l => [l.headD ""]
  | .read, l => [l.headD ""]
  | .trace, l => [l.headD ""]
  | _, _ => []

/-- What may come out of a command that nobody deals with. -/
inductive Escapes (script : Engine.Script) (command : Command) (arguments : List String) :
    Failure → Prop where
  /-- The program is asked to end. -/
  | exit {a : String} {code : Int} (hcommand : command = .exit) (ha : arguments.head? = some a)
      (hcode : Text.leadingInt a.toList = .ok code) (hzero : code ≠ 0) :
      Escapes script command arguments (.exit code)
  | number {a : String} {f : Text.NumberFault} (ha : a ∈ wholeNumbers command arguments)
      (hf : Text.leadingInt a.toList = .error f) : Escapes script command arguments (.number f)
  | switch {a : String} (ha : a ∈ switches command arguments) (hdigits : a.toList.all Text.isDigit)
      (hnone : Text.number? a.toList = none) : Escapes script command arguments (.number .notDecimal)
  | zeroCharacter {a : String} (ha : a ∈ fileNames command arguments) (hzero : '\x00' ∈ a.toList) :
      Escapes script command arguments .zeroCharacter
  | undecodable (hcommand : command = .import_) : Escapes script command arguments .undecodable
  /-- The engine lists its catalog in another way than it should. -/
  | catalogRow (f : RowFault) (hcommand : command = .dump ∨ command = .tables) :
      Escapes script command arguments (.catalogRow f)
  | missingValue (hcommand : command = .databases) (hfull : ¬ script.IsFull) :
      Escapes script command arguments .missingValue
  | endlessFile (hcommand : command = .import_) : Escapes script command arguments .endless
  | endlessCopy (hcommand : command = .backup ∨ command = .restore) (hmore : NeverDone script) :
      Escapes script command arguments .endless

variable {o : Origin} {session : Session} {command : Command} {arguments : List String}
  {F : Failure → Prop}

/-! Arguments that are yes or no. -/

theorem booleanArgument_result (a : String) (s s' : Scene Console) :
    (booleanArgument a s).1 = (booleanArgument a s').1 := by
  unfold booleanArgument
  dsimp only
  split
  · cases Text.number? a.toList <;> rfl
  · split
    · rfl
    · split <;> rfl

theorem ensures_booleanArgument {a : String}
    (hswitch : a.toList.all Text.isDigit → Text.number? a.toList = none → F (.number .notDecimal)) :
    Ensures (o.Rests session) (booleanArgument a) (fun b s => TakenAs a b ∧ o.Rests session s)
      (fun f s => o.Rests session s ∧ F f) := by
  have hsafe : Safe (o.Rests session) F (booleanArgument a) := by
    unfold booleanArgument
    dsimp only
    split
    · rename_i hdigits
      split
      · exact .pure _
      · rename_i hnone
        exact .fail (hswitch (Bool.and_eq_true_iff.1 hdigits).2 hnone)
    · split
      · exact .pure true
      · split
        · exact .pure false
        · exact .bind (safe_writeError _) fun _ => .pure false
  intro s hs
  have hends := hsafe s hs
  rcases hresult : booleanArgument a s with ⟨f | b, s'⟩ <;> rw [hresult] at hends
  · exact hends
  · refine ⟨fun t => (booleanArgument_result a t s).trans ?_, hends⟩
    rw [hresult]

/-! Settings. -/

/-- The session may have got other settings; what was put aside for explain mode is still the same. -/
def Chooses (o : Origin) (session : Session) (s : Scene Console) : Prop :=
  ∃ t : Settings, t.beforeExplain = session.settings.beforeExplain ∧
    o.Rests { session with settings := t } s

theorem ensures_modifySettings {E : Failure → Scene Console → Prop} (f : Settings → Settings) :
    Ensures (o.Rests session) (modifySettings f)
      (fun _ => o.Rests { session with settings := f session.settings }) E := by
  rintro s ⟨rfl, hs⟩
  exact ⟨rfl, hs⟩

theorem ensures_choice {E : Failure → Scene Console → Prop} {f : Settings → Settings}
    (hf : ∀ t, (f t).beforeExplain = t.beforeExplain) :
    Ensures (o.Rests session) (modifySettings f) (fun _ => Chooses o session) E :=
  (ensures_modifySettings f).post fun _ _ hs => ⟨_, hf _, hs⟩

theorem ensures_setSwitch {set : Bool → Settings → Settings} {a : String}
    (hset : ∀ b t, (set b t).beforeExplain = t.beforeExplain)
    (hswitch : a.toList.all Text.isDigit → Text.number? a.toList = none → F (.number .notDecimal)) :
    Ensures (o.Rests session) (setSwitch set a) (fun _ => Chooses o session)
      (fun f s => o.Rests session s ∧ F f) :=
  .bind (ensures_booleanArgument hswitch) fun b => .assume fun _ => ensures_choice (hset b)

theorem ensures_setExplain {a? : Option String}
    (hswitch : ∀ a ∈ a?, a.toList.all Text.isDigit → Text.number? a.toList = none →
      F (.number .notDecimal)) :
    Ensures (o.Rests session) (setExplain a?)
      (fun _ s => ∃ on, TurnsExplain a?.toList on ∧ o.Rests { session with
        settings := if on then session.settings.explained else session.settings.unexplained } s)
      (fun f s => o.Rests session s ∧ F f) := by
  have hset (on : Bool) (hon : TurnsExplain a?.toList on) : Ensures (o.Rests session)
      (modifySettings fun s => if on then s.explained else s.unexplained)
      (fun _ s => ∃ on, TurnsExplain a?.toList on ∧ o.Rests { session with
        settings := if on then session.settings.explained else session.settings.unexplained } s)
      (fun f s => o.Rests session s ∧ F f) :=
    (ensures_modifySettings _).post fun _ _ hs => ⟨on, hon, hs⟩
  cases a? with
  | none => exact hset true rfl
  | some a => exact .bind (ensures_booleanArgument (hswitch a rfl)) fun on => .assume fun hon => hset on hon

theorem ensures_setMode (hF : ∀ f, o.Expects f → F f) (name : String) (table? : Option String) :
    Ensures (o.Rests session) (setMode name table?) (fun _ => Chooses o session)
      (fun f s => o.Rests session s ∧ F f) := by
  unfold setMode
  split
  · exact .fail fun _ hs => ⟨hs, hF _ (Origin.expects_complaint _)⟩
  · exact .fail fun _ hs => ⟨hs, hF _ (Origin.expects_complaint _)⟩
  · exact ensures_choice fun _ => rfl

/-- Widths that come before one that is no number stay set. -/
theorem ensures_setWidthsFrom (arguments : List String) (i : Nat)
    (hnumber : ∀ a ∈ arguments, ∀ f, Text.leadingInt a.toList = .error f → F (.number f)) :
    Ensures (o.Rests session) (setWidthsFrom i arguments) (fun _ => Chooses o session)
      (fun f s => Chooses o session s ∧ f.message? = none ∧ F f) := by
  induction arguments generalizing i session with
  | nil => exact .pure fun _ hs => ⟨_, rfl, hs⟩
  | cons a rest ih =>
    refine .bind (Q := fun _ => o.Rests session) ?_ fun n =>
      .bind (ensures_modifySettings _) fun _ => ih (i + 1) fun b hb => hnumber b (List.mem_cons_of_mem _ hb)
    unfold integerArgument
    split
    · exact .pure fun _ hs => hs
    · rename_i f hf
      exact .fail fun _ hs => ⟨⟨_, rfl, hs⟩, rfl, hnumber a List.mem_cons_self f hf⟩

/-! Commands. -/

/-- What a command may fail with. -/
def MayFail (o : Origin) (command : Command) (arguments : List String) (f : Failure) : Prop :=
  o.Expects f ∨ Escapes o.script command arguments f

/-- How a command ends, where the console was in a session: what it has changed there, and what it may have
failed with. Where the user is told of a failure the settings are as they were, and all of the session is
unless the command chooses where text goes. -/
def Obeys (o : Origin) (command : Command) (arguments : List String) (x : Act Console Outcome) : Prop :=
  ∀ session, Ensures (o.Rests session) x
    (fun outcome s => outcome ≠ .error ∧
      ∃ session', Alters command arguments session session' ∧ o.Rests session' s)
    (fun f s => MayFail o command arguments f ∧
      ∃ session', (Alters command arguments session session' ∧ o.Rests session' s) ∧
        (f.message?.isSome → session'.settings = session.settings ∧
          (command ∉ directing → session' = session)))

namespace Obeys

theorem outcome {x : Act Console Outcome} (outcome : Outcome) (houtcome : outcome ≠ .error)
    (hx : ∀ session, Ensures (o.Rests session) x (fun r s => r = outcome ∧ o.Rests session s)
      (fun f s => o.Rests session s ∧ MayFail o command arguments f)) :
    Obeys o command arguments x := fun session =>
  (hx session).mono (fun _ hs => hs) (fun _ _ hs => ⟨hs.1 ▸ houtcome, session, .nothing, hs.2⟩)
    fun _ _ hs => ⟨hs.2, session, ⟨.nothing, hs.1⟩, fun _ => ⟨rfl, fun _ => rfl⟩⟩

variable {x : Act Console Unit}

theorem still (hx : ∀ session, Safe (o.Rests session) (MayFail o command arguments) x) :
    Obeys o command arguments (do x; pure .success) :=
  outcome .success nofun fun session =>
    Ensures.bind (hx session) fun _ => .pure fun _ hs => ⟨rfl, hs⟩

/-- The command has done its work, or has failed in a way that leaves the settings alone. -/
private theorem success
    (hx : ∀ session, Ensures (o.Rests session) x
      (fun _ s => ∃ session', Alters command arguments session session' ∧ o.Rests session' s)
      (fun f s => MayFail o command arguments f ∧
        ∃ session', (Alters command arguments session session' ∧ o.Rests session' s) ∧
          (f.message?.isSome → session'.settings = session.settings ∧
            (command ∉ directing → session' = session)))) :
    Obeys o command arguments (do x; pure .success) := fun session =>
  .bind (hx session) fun _ => .pure fun _ hs => ⟨nofun, hs⟩

theorem settings (hcommand : command ∈ choosing)
    (hx : ∀ session, Ensures (o.Rests session) x (fun _ => Chooses o session)
      (fun f s => (o.Rests session s ∨ Chooses o session s ∧ f.message? = none) ∧
        MayFail o command arguments f)) :
    Obeys o command arguments (do x; pure .success) := by
  refine success fun session => (hx session).mono (fun _ hs => hs) ?_ ?_
  · rintro _ s ⟨t, haside, hs⟩
    exact ⟨_, .settings t hcommand haside, hs⟩
  · rintro f s ⟨hs | ⟨⟨t, haside, hs⟩, htold⟩, hf⟩
    · exact ⟨hf, session, ⟨.nothing, hs⟩, fun _ => ⟨rfl, fun _ => rfl⟩⟩
    · exact ⟨hf, _, ⟨.settings t hcommand haside, hs⟩, fun h => absurd h (by simp [htold])⟩

theorem switch {set : Bool → Settings → Settings} {a : String} (hcommand : command ∈ choosing)
    (hset : ∀ b t, (set b t).beforeExplain = t.beforeExplain) (ha : a ∈ switches command arguments) :
    Obeys o command arguments (do setSwitch set a; pure .success) :=
  settings hcommand fun _ => (ensures_setSwitch hset fun hdigits hnone =>
    .inr (.switch ha hdigits hnone)).onError fun _ _ hs => ⟨.inl hs.1, hs.2⟩

theorem choice {f : Settings → Settings} (hcommand : command ∈ choosing)
    (hf : ∀ t, (f t).beforeExplain = t.beforeExplain) :
    Obeys o command arguments (do modifySettings f; pure .success) :=
  settings hcommand fun _ => ensures_choice hf

theorem sinks {α : Type} (put : Session → α → Session) (hcommand : command ∈ directing)
    (hput : ∀ session k, (put session k).settings = session.settings)
    (hx : ∀ session, Ensures (o.Rests session) x (fun _ s => ∃ k, o.Rests (put session k) s)
      (fun f s => (o.Rests session s ∨ ∃ k, o.Rests (put session k) s) ∧
        MayFail o command arguments f)) :
    Obeys o command arguments (do x; pure .success) := by
  refine success fun session => (hx session).mono (fun _ hs => hs) ?_ ?_
  · rintro _ s ⟨k, hs⟩
    exact ⟨_, .sinks hcommand (hput ..), hs⟩
  · rintro f s ⟨hs | ⟨k, hs⟩, hf⟩
    · exact ⟨hf, session, ⟨.nothing, hs⟩, fun _ => ⟨rfl, fun _ => rfl⟩⟩
    · exact ⟨hf, _, ⟨.sinks hcommand (hput ..), hs⟩, fun _ => ⟨hput .., fun h => absurd hcommand h⟩⟩

theorem explain {a? : Option String} (ha : arguments.head? = a?) (hcommand : command = .explain) :
    Obeys o command arguments (do setExplain a?; pure .success) := by
  subst hcommand ha
  refine success fun session => (ensures_setExplain (F := MayFail o .explain arguments)
    fun a ha hdigits hnone => .inr (.switch (Option.mem_toList.2 ha) hdigits hnone)).mono
      (fun _ hs => hs) ?_ ?_
  · rintro _ s ⟨on, hon, hs⟩
    refine ⟨_, .explain on rfl ?_, hs⟩
    unfold TurnsExplain at hon ⊢
    cases harguments : arguments.head? with
    | none => simpa [harguments] using hon
    | some a => simpa [harguments] using hon
  · exact fun f s hs => ⟨hs.2, session, ⟨.nothing, hs.1⟩, fun _ => ⟨rfl, fun _ => rfl⟩⟩

end Obeys

/-- Every command but the one that reads a file. -/
theorem obeys_runCommand (feed : Source → Act Console Outcome) (hread : command ≠ .read) :
    Obeys o command arguments (runCommand feed command arguments) := by
  have hF (f : Failure) (hf : o.Expects f) : MayFail o command arguments f := .inl hf
  have hname {a : String} (ha : a ∈ fileNames command arguments) (hzero : '\x00' ∈ a.toList) :
      MayFail o command arguments .zeroCharacter := .inr (.zeroCharacter ha hzero)
  cases command with
  | backup => exact .still fun _ => safe_backup hF (fun h => .inr (.endlessCopy (.inl rfl) h)) _
  | bail => exact .switch (by decide) (fun _ _ => rfl) List.mem_cons_self
  | breakpoint => exact .outcome .success nofun fun _ => .pure fun _ hs => ⟨rfl, hs⟩
  | databases => exact .still fun _ => safe_showDatabases hF fun h => .inr (.missingValue rfl h)
  | dump => exact .still fun _ => safe_dump hF (fun f => .inr (.catalogRow f (.inl rfl))) _
  | echo => exact .switch (by decide) (fun _ _ => rfl) List.mem_cons_self
  | exit =>
    exact .outcome .stop nofun fun _ => ensures_exit
      (fun _ ha _ hf => .inr (.number (Option.mem_toList.2 ha) hf))
      fun _ ha _ hcode hzero => .inr (.exit rfl ha hcode hzero)
  | explain => exact .explain rfl rfl
  | headers => exact .switch (by decide) (fun _ _ => rfl) List.mem_cons_self
  | help => exact .still fun _ => safe_showHelp hF _
  | import_ =>
    exact .still fun _ => safe_importFile hF (hname List.mem_cons_self)
      (.inr (.undecodable rfl)) (.inr (.endlessFile rfl)) _
  | indices => exact .still fun _ => safe_showIndexes hF _
  | load => exact .still fun _ => safe_loadExtension hF _ _
  | log =>
    exact .sinks (fun s k? => { s with log := k? }) (by decide) (fun _ _ => rfl) fun _ =>
      ensures_setLog hF (hname List.mem_cons_self)
  | mode =>
    exact .settings (by decide) fun _ => (ensures_setMode hF _ _).onError fun _ _ hs => ⟨.inl hs.1, hs.2⟩
  | nullvalue => exact .choice (by decide) fun _ => rfl
  | output =>
    exact .sinks (fun s k => { s with output := k }) (by decide) (fun _ _ => rfl) fun _ =>
      (ensures_setOutput hF (hname List.mem_cons_self)).onError fun _ _ hs => ⟨.inr hs.1, hs.2⟩
  | print => exact .still fun _ => safe_writeOutput hF _
  | prompt => exact .choice (by decide) fun _ => rfl
  | quit => exact .outcome .stop nofun fun _ => .pure fun _ hs => ⟨rfl, hs⟩
  | read => exact absurd rfl hread
  | restore =>
    unfold runCommand
    dsimp only
    split
    · exact .still fun _ => safe_restore hF (fun h => .inr (.endlessCopy (.inr rfl) h)) _ _
    · exact .still fun _ => safe_restore hF (fun h => .inr (.endlessCopy (.inr rfl) h)) _ _
  | schema => exact .still fun _ => safe_showSchema hF _
  | separator => exact .choice (by decide) fun _ => rfl
  | show_ => exact .still fun _ => safe_showSettings hF
  | stats => exact .switch (by decide) (fun _ _ => rfl) List.mem_cons_self
  | tables => exact .still fun _ => safe_showTables hF (fun f => .inr (.catalogRow f (.inr rfl))) _
  | testctrl =>
    exact .still fun _ => safe_runTestControl hF _ fun _ hf => .inr (.number List.mem_cons_self hf)
  | timeout => exact .still fun _ => safe_setTimeout hF fun _ hf => .inr (.number List.mem_cons_self hf)
  | timer => exact .switch (by decide) (fun _ _ => rfl) List.mem_cons_self
  | trace =>
    exact .sinks (fun s k? => { s with trace := k? }) (by decide) (fun _ _ => rfl) fun _ =>
      ensures_setTrace hF (hname List.mem_cons_self)
  | version =>
    exact .still fun _ => .world fun _ _ => safe_writeOutput hF _
  | vfsname => exact .still fun _ => safe_showFileSystem hF _
  | width =>
    exact .settings (by decide) fun _ => (ensures_setWidthsFrom _ 0 fun _ ha _ hf =>
      .inr (.number ha hf)).onError fun _ _ hs => ⟨.inr ⟨hs.1, hs.2.1⟩, hs.2.2⟩

end SqlConsole.Console

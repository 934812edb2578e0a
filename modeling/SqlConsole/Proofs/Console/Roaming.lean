import SqlConsole.Console.Program
import SqlConsole.Proofs.Console.Break

/-! Everything that the console does for its arguments and its inputs is done by moves, and the only sinks
that fail are those that may refuse something. -/
namespace SqlConsole.Console
open Act (Safe)

/-- What the main loop does before it reads. -/
def welcome (greeting? : Option String) (ownInput : Bool) : Act Console Unit := do
  if (← Act.own).interactive then
    let script := (← Act.world).script
    Act.write .stdout (greeting?.getD (greeting script)).toList
    if ownInput then Act.event (.readHistory historyFile)

/-- The line is of one kind, and if it asks for a file so are the dot lines that reading it comes to. -/
def Follows (P : List Char → Prop) (line : List Char) (s : Scene Console) : Prop :=
  P line ∧ ∀ depth source, maxDepth = depth + 1 → AsksFor line s source → (Place.opened depth source s).Only P

variable {o : Origin} {P : List Char → Prop} {s s₀ : Scene Console} {α : Type} {x : Act Console α}

/-! Sinks that fail. -/

theorem Escapes.permits {command : Command} {arguments : List String} {f : Failure}
    (h : Escapes o.script command arguments f) : o.Permits f := by
  cases h <;> exact nofun

theorem Place.Breaks.permits {p : Place} {f : Failure} (h : p.Breaks o.script f) (hs : o.Stands p.scene) :
    o.Permits f := by
  cases h with
  | lost _ hfetch => rcases Input.fetch_failed hfetch with rfl | rfl <;> rintro _ _ ⟨⟩
  | escapes _ _ hf => exact hf.permits
  | refused hasks hk =>
    rintro _ _ ⟨⟩
    rwa [World.Refuses, (hasks.stands hs).2.taking] at hk
  | _ => rintro _ _ ⟨⟩

/-- The action is done by moves, and if a sink fails then it may refuse something. -/
def Roams (o : Origin) (P : List Char → Prop) (s : Scene Console) (x : Act Console α) : Prop :=
  Moves P s (x s).2 ∧ ∀ f, (x s).1 = .error f → o.Permits f

/-- The action goes on from a scene by moves, and the only sinks that fail are those that may refuse
something. -/
abbrev Roaming (o : Origin) (P : List Char → Prop) (s₀ : Scene Console) (x : Act Console α) : Prop :=
  Safe (Moves P s₀) o.Permits x

theorem Roaming.roams (h : Roaming o P s x) : Roams o P s x := by
  have hends := h s (.refl s)
  unfold Roams
  rcases hx : x s with ⟨f | a, t⟩ <;> rw [hx] at hends
  · exact ⟨hends.1, fun _ heq => Except.error.inj heq ▸ hends.2⟩
  · exact ⟨hends, nofun⟩

theorem Roams.roaming (hs : o.Stands s₀) (h : ∀ s, o.Stands s → Roams o P s x) : Roaming o P s₀ x := by
  intro s hmoves
  obtain ⟨hroams, hpermits⟩ := h s (hmoves.stands hs)
  rcases hx : x s with ⟨f | a, t⟩ <;> rw [hx] at hroams hpermits
  · exact ⟨hmoves.trans hroams, hpermits f rfl⟩
  · exact hmoves.trans hroams

theorem discard_apply (x : Act Console α) (s : Scene Console) :
    (Functor.discard x : Act Console Unit) s = match x s with
      | (.ok _, t) => (.ok (), t)
      | (.error f, t) => (.error f, t) := by
  show (x >>= fun _ => pure ()) s = _
  rw [Act.bind_apply]
  rcases x s with ⟨f | a, t⟩ <;> rfl

theorem Roams.discard (h : Roams o P s x) : Roams o P s (Functor.discard x) := by
  unfold Roams at h ⊢
  rw [discard_apply]
  rcases hx : x s with ⟨f | a, t⟩ <;> rw [hx] at h
  · exact ⟨h.1, fun _ herror => h.2 _ (congrArg _ (Except.error.inj herror))⟩
  · exact ⟨h.1, nofun⟩

/-! Lines, texts and inputs. -/

/-- A file that no other file asks for. -/
theorem readSource_eq (source : Source) (s : Scene Console) :
    readSource source s = (Place.opened 328 source s).read := rfl

theorem Place.read_permits {p : Place} {f : Failure} (hs : o.Stands p.scene) (h : p.read.1 = .error f) :
    o.Permits f := by
  intro k fault hf
  obtain ⟨-, trail, q, hvisits, hbreaks⟩ := Place.read_error hs (Prod.ext h rfl) (by rw [hf]; rfl)
  exact hbreaks.permits (hvisits.stands hs) k fault hf

theorem roams_dotLine {line : List Char} (hs : o.Stands s) (hline : Follows P line s) :
    Roams o P s (dotLine readSource line) := by
  refine ⟨moves_dotLine hline.1 fun d source hd hfile => (hline.2 d source hd hfile).moves, fun f h => ?_⟩
  obtain ⟨-, ⟨command, arguments, -, hfails⟩ | ⟨source, -, hfeed⟩⟩ := dotLine_error hs (Prod.ext h rfl)
  · rcases hfails with hexpected | hescapes
    · exact Origin.permits_of_expects hexpected
    · exact hescapes.permits
  · rw [readSource_eq] at hfeed
    exact Place.read_permits hs (congrArg Prod.fst hfeed)

theorem roams_runSql (hs : o.Stands s) (sql : String) (line? : Option Int) :
    Roams o P s (runSql sql line?) := by
  refine ⟨.single (.sql sql line? s), fun f h => ?_⟩
  have hsafe : Safe (o.Rests s.own.session) o.Permits (runSql sql line?) :=
    safe_runSql (fun _ => Origin.permits_of_expects) (fun _ => nofun) (fun _ => nofun) line?
  exact (Act.Ensures.apply_error hsafe hs (Prod.ext h rfl)).2

theorem roams_runWhole (hs : o.Stands s) (sql : String) (line? : Option Int) :
    Roams o P s (runWhole sql line?) := by
  refine ⟨moves_runWhole sql line?, fun f h => ?_⟩
  rcases runWhole_error hs (Prod.ext h rfl) with hexpected | ⟨rfl, -⟩ | ⟨rfl, -⟩
  · exact Origin.permits_of_expects hexpected
  · exact nofun
  · exact nofun

theorem roams_runText {text : String} (hs : o.Stands s)
    (htext : text.toList.head? = some '.' → Follows P text.toList s) : Roams o P s (runText text) := by
  unfold runText
  split
  · rename_i hdot
    exact roams_dotLine hs (htext hdot)
  · exact roams_runWhole hs text none

theorem roams_readInput {interactive : Bool} {items : List Item} (hs : o.Stands s)
    (h : (Place.start interactive items s).Only P) : Roams o P s (readInput interactive items) :=
  ⟨h.moves, fun _ => Place.read_permits (p := .start interactive items s) hs⟩

theorem roams_connection (hs : o.Stands s) : Roams o P s connection := by
  refine ⟨.single (.opened s), fun f h => ?_⟩
  have hends : Act.Ensures (o.Rests s.own.session) connection
      (fun db t => t.own.db = some db ∧ o.Rests s.own.session t)
      (fun f t => o.Rests s.own.session t ∧ o.Permits f) :=
    ensures_connection fun _ => Origin.permits_of_expects
  exact (hends.apply_error hs (Prod.ext h rfl)).2

theorem roams_interrupt (interactive : Bool) : Roams o P s (interrupt interactive) :=
  ⟨moves_interrupt interactive, by rw [(interrupt_eq interactive s).1]; exact nofun⟩

/-! Arguments of the program. All of it comes down to what was said of lines and inputs, and to settings. -/

section Arguments

/-- Nothing is done that is not of the kind that everything is of. -/
theorem follows_of_forall (hP : ∀ line, P line) (line : List Char) (s : Scene Console) : Follows P line s :=
  ⟨hP line, fun _ _ _ _ _ _ _ _ _ _ _ _ => hP _⟩

theorem roaming_own {f : Console → Console} (hsession : ∀ c, (f c).session = c.session)
    (hdb : ∀ c, (f c).db = c.db) : Roaming o P s₀ (Act.modifyOwn f) :=
  .modifyOwn fun _ hmoves => hmoves.trans (.single (.own _ (hsession _) (hdb _)))

theorem roaming_modifySettings {f : Settings → Settings}
    (haside : ∀ t, (f t).beforeExplain = t.beforeExplain) : Roaming o P s₀ (modifySettings f) :=
  fun s (hmoves : Moves P s₀ s) => hmoves.trans (.single (.setting (f s.own.session.settings) (haside _)))

theorem roaming_write {k : Sink} (hk : k.isStream) (text : List Char) :
    Roaming o P s₀ (Act.write k text) := by
  intro s hmoves
  cases k with
  | opened id name => cases hk
  | _ => exact hmoves.trans (moves_told rfl _)

theorem roaming_refuse (message : String) : Roaming o P s₀ (refuse message : Act Console α) :=
  .bind (roaming_write rfl _) fun _ => .fail nofun

theorem roaming_history {e : Engine.Event} (he : ∀ script l, Links.after script l e = some l) :
    Roaming o P s₀ (Act.event e) := fun s hmoves => hmoves.trans (.single (.history he s))

theorem roaming_chooseFileSystem (name : String) : Roaming o P s₀ (chooseFileSystem name) := by
  refine .world fun s _ => ?_
  split
  · exact roaming_own (fun _ => rfl) fun _ => rfl
  · exact .bind (roaming_write rfl _) fun _ => .fail nofun

theorem roaming_findPlaces (p : Places) (l : List String) : Roaming o P s₀ (findPlaces p l) := by
  fun_induction findPlaces p l with
  | case1 => exact .pure _
  | case4 | case5 => exact roaming_refuse _
  | case7 _ _ _ _ _ _ _ _ ih => exact .bind (roaming_chooseFileSystem _) fun _ => ih
  | case9 _ _ _ _ _ _ ih => exact .bind (roaming_own (fun _ => rfl) fun _ => rfl) fun _ => ih
  | _ => assumption

section From
variable (hs : o.Stands s₀)
include hs

theorem roaming_nameDatabase (name : String) : Roaming o P s₀ (nameDatabase name) := by
  refine .bind (roaming_own (fun _ => rfl) fun _ => rfl) fun _ => .world fun s _ => ?_
  split
  · exact .discard (Roams.roaming hs fun _ => roams_connection)
  · exact .pure ()

variable (hP : ∀ line, P line)
include hP

theorem roaming_runText (text : String) : Roaming o P s₀ (runText text) :=
  Roams.roaming hs fun _ ht => roams_runText ht fun _ => follows_of_forall hP _ _

theorem roaming_readSource (source : Source) : Roaming o P s₀ (readSource source) := by
  refine Roams.roaming hs fun s ht => ?_
  unfold Roams
  rw [readSource_eq]
  have honly : (Place.opened 328 source s).Only P := fun _ _ _ _ _ _ _ _ => hP _
  exact ⟨honly.moves, fun _ => Place.read_permits ht⟩

private theorem roaming_readInit (file : String) : Roaming o P s₀ (do
    match ← Act.openSource? file .unified with
    | some source => do
      if (← Act.own).interactive then writeError ("-- Loading resources from " ++ file ++ "\n")
      readSource source
    | none => do
      writeError ("Error: cannot open \"" ++ file ++ "\"\n")
      pure .error) := by
  refine .bind (Origin.safe_openSource? (fun _ => nofun) _) fun source? => ?_
  cases source? with
  | none => exact .bind (roaming_write rfl _) fun _ => .pure _
  | some source =>
    refine .own fun s _ => ?_
    split
    · exact .bind (roaming_write rfl _) fun _ => roaming_readSource hs hP source
    · exact roaming_readSource hs hP source

theorem roaming_setUp (file? : Option String) : Roaming o P s₀ (setUp file?) := by
  refine .bind ?_ fun outcome => ?_
  · cases file? with
    | some file => exact roaming_readInit hs hP file
    | none =>
      refine .world fun s _ => ?_
      split
      · exact roaming_readInit hs hP defaultInitFile
      · exact .pure _
  · split
    · exact .pure ()
    · exact .fail (by simp [Origin.Permits])

theorem roaming_runOptionText (text : String) : Roaming o P s₀ (runOptionText text) := by
  refine .bind (roaming_runText hs hP text) fun outcome => .own fun s _ => ?_
  split
  · cases outcome with
    | success => exact .pure ()
    | error => exact .fail nofun
    | stop => exact .fail nofun
  · exact .pure ()

end From

theorem roaming_setMode (name : String) (table? : Option String) : Roaming o P s₀ (setMode name table?) := by
  unfold setMode
  split
  · exact .fail nofun
  · exact .fail nofun
  · exact roaming_modifySettings fun _ => rfl

theorem roaming_applyOption (written name : String) : Roaming o P s₀ (applyOption written name) := by
  unfold applyOption
  split
  all_goals first
    | with_reducible exact roaming_setMode _ _
    | with_reducible exact roaming_refuse _
    | exact .bind (roaming_write rfl _) fun _ => .fail nofun
    | exact .world fun _ _ => .bind (roaming_write rfl _) fun _ => .fail nofun
    | exact roaming_own (fun _ => rfl) fun _ => rfl
    | exact roaming_modifySettings fun _ => rfl

theorem roaming_applyOptions (hs : o.Stands s₀) (hP : ∀ line, P line) (l : List String) :
    Roaming o P s₀ (applyOptions l) := by
  fun_induction applyOptions l with
  | case1 | case3 => exact .pure ()
  | case5 | case7 | case9 => exact .fail nofun
  | case6 _ _ _ _ _ _ ih => exact .bind (roaming_modifySettings fun _ => rfl) fun _ => ih
  | case8 _ _ _ _ _ _ _ ih => exact .bind (roaming_modifySettings fun _ => rfl) fun _ => ih
  | case10 _ _ _ _ _ _ _ _ ih => exact .bind (roaming_runOptionText hs hP _) fun _ => ih
  | case11 _ _ _ _ _ _ _ ih => exact .bind (roaming_applyOption _ _) fun _ => ih
  | _ => assumption

theorem roaming_processArguments (hs : o.Stands s₀) (hP : ∀ line, P line) (l : List String) :
    Roaming o P s₀ (processArguments l) := by
  unfold processArguments
  split
  · exact .pure _
  · refine .bind (roaming_findPlaces _ _) fun places => .bind ?_ fun _ =>
      .bind (roaming_setUp hs hP _) fun _ => .bind (roaming_applyOptions hs hP _) fun _ =>
        .bind ?_ fun _ => .own fun s _ => .pure _
    · cases places.database with
      | none => exact .pure ()
      | some name => exact roaming_nameDatabase hs name
    · cases places.text with
      | none => exact .pure ()
      | some text =>
        exact .bind (roaming_runText hs hP text) fun _ => roaming_own (fun _ => rfl) fun _ => rfl

end Arguments

/-! The main loop. -/

theorem Roams.of_ok {β : Type} {x : Act Console β} {f : β → Act Console α} {b : β} {t : Scene Console}
    (hx : x s = (.ok b, t)) (hmoves : Moves P s t) (h : Roams o P t (f b)) : Roams o P s (x >>= f) := by
  unfold Roams
  rw [Act.bind_ok hx]
  exact ⟨hmoves.trans h.1, h.2⟩

theorem Roams.ensuring {last : Act Console Unit} (hx : Roams o P s x) (hlast : ∀ t, Roams o P t last) :
    Roams o P s (x.ensuring last) := by
  obtain ⟨hmoves, hpermits⟩ := hlast (x s).2
  unfold Roams Act.ensuring
  rcases heq : last (x s).2 with ⟨f | _, t⟩ <;> rw [heq] at hmoves hpermits
  · exact ⟨hx.1.trans hmoves, fun _ h => hpermits _ (congrArg _ (Except.error.inj h))⟩
  · exact ⟨hx.1.trans hmoves, hx.2⟩

theorem roams_mainLoop {greeting? : Option String} {ownInput : Bool} {items : List Item}
    (hs : o.Stands s)
    (h : (Place.start s.own.interactive items (welcome greeting? ownInput s).2).Only P) :
    Roams o P s (mainLoop greeting? ownInput items) := by
  refine Roams.of_ok (show Act.own s = (.ok s.own, s) from rfl) (.refl s) ?_
  unfold welcome at h
  rw [Act.bind_ok (show Act.own s = (.ok s.own, s) from rfl)] at h
  cases hinteractive : s.own.interactive with
  | false =>
    rw [hinteractive] at h
    exact roams_readInput hs h
  | true =>
    rw [hinteractive] at h
    refine Roams.of_ok (show Act.world s = (.ok s.world, s) from rfl) (.refl s) ?_
    let text := (greeting?.getD (greeting s.world.script)).toList
    let greeted := s.noted (.wrote .stdout (String.ofList text))
    have hgreets : Moves P s greeted := moves_told rfl _
    refine Roams.of_ok (t := greeted) rfl hgreets ?_
    cases ownInput with
    | false => exact roams_readInput (hgreets.stands hs) h
    | true =>
      have hreads : Moves P greeted (greeted.noted (.engine (.readHistory historyFile))) :=
        .single (.history (fun _ _ => rfl) _)
      refine Roams.of_ok rfl hreads (.ensuring (roams_readInput (hreads.stands (hgreets.stands hs)) h) ?_)
      exact fun t => Roaming.roams (.bind (roaming_history fun _ _ => rfl)
        fun _ => roaming_history fun _ _ => rfl)

end SqlConsole.Console

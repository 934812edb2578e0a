import SqlConsole.Proofs.Engine.Barring
import SqlConsole.Proofs.World.Discreet

/-! Actions that keep no interrupt to themselves: either they end with it, or all would be the same if
something else had come up in its place. -/
namespace SqlConsole

namespace Scene
variable {σ τ : Type}

def withScript (s : Scene σ) (script : Engine.Script) : Scene σ :=
  { s with world := { s.world with script } }

/-- The scenes are the same, but in the second one the engine may do something else where it interrupts in
the first. -/
inductive Barring (s : Scene σ) : Scene σ → Prop where
  | mk (script : Engine.Script) (h : s.world.script.Barring script) : Barring s (s.withScript script)

namespace Barring
variable {s t : Scene σ}

theorem script (h : s.Barring t) : s.world.script.Barring t.world.script := by
  cases h with
  | mk script h => exact h

theorem eq_withScript (h : s.Barring t) : t = s.withScript t.world.script := by
  cases h
  rfl

theorem within {own : τ} (h : s.Barring t) : (⟨s.world, own⟩ : Scene τ).Barring ⟨t.world, own⟩ := by
  cases h with
  | mk script h => exact .mk script h

end Barring
end Scene

namespace Act
open Scene (Barring)

variable {σ τ α β : Type}

/-- The first end is an interrupt, or it is the second one as well, and the scenes are the same barring
interrupts. -/
def Admits (r r' : Except Failure α × Scene σ) : Prop :=
  r.1 = .error .interrupted ∨ r'.1 = r.1 ∧ r.2.Barring r'.2

/-- In this scene the action fails, and not because it is interrupted. -/
def Fails (x : Act σ α) (s : Scene σ) : Prop := ∃ f s', x s = (.error f, s') ∧ f ≠ .interrupted

namespace Admits
variable {x y : Act σ α} {s t : Scene σ}

/-- What comes next is done in scenes that are the same barring interrupts, unless there was one. -/
theorem next {f g : α → Act σ β} (h : Admits (x s) (y t)) {p : Prop}
    (hf : ∀ a s' t', x s = (.ok a, s') → s'.Barring t' → p ∨ Admits (f a s') (g a t')) :
    p ∨ Admits ((x >>= f) s) ((y >>= g) t) := by
  rcases hs : x s with ⟨e | a, s'⟩ <;> rw [hs] at h
  · rw [bind_error hs]
    rcases h with hends | ⟨hend, hscenes⟩
    · cases hends
      exact .inr (.inl rfl)
    · have ht : y t = (.error e, (y t).2) := Prod.ext hend rfl
      rw [bind_error ht]
      exact .inr (.inr ⟨rfl, hscenes⟩)
  · obtain ⟨hend, hscenes⟩ := h.resolve_left nofun
    have ht : y t = (.ok a, (y t).2) := Prod.ext hend rfl
    rw [bind_ok hs, bind_ok ht]
    exact hf a s' _ hs hscenes

/-- The end is looked at, whatever it is. -/
theorem attempt {f g : Except Failure α → Act σ β} (h : Admits (x s) (y t)) {p : Prop}
    (hpass : ∀ s', x s = (.error .interrupted, s') → p ∨ (f (.error .interrupted) s').1 = .error .interrupted)
    (hf : ∀ ending s' t', x s = (ending, s') → s'.Barring t' → p ∨ Admits (f ending s') (g ending t')) :
    p ∨ Admits ((Act.attempt x >>= f) s) ((Act.attempt y >>= g) t) := by
  show p ∨ Admits (f (x s).1 (x s).2) (g (y t).1 (y t).2)
  rcases h with hends | ⟨hend, hscenes⟩
  · rw [hends]
    exact (hpass _ (Prod.ext hends rfl)).imp_right .inl
  · rw [hend]
    exact hf _ _ _ rfl hscenes

theorem within {own : τ} {x y : Act τ α} (h : s.Barring t)
    (hx : Admits (x ⟨s.world, own⟩) (y ⟨t.world, own⟩)) :
    Admits (Act.within own x s) (Act.within own y t) := by
  cases h with
  | mk script h =>
    refine hx.imp_right fun ⟨hend, hscenes⟩ => ⟨hend, ?_⟩
    show Barring ⟨(x ⟨s.world, own⟩).2.world, s.own⟩ ⟨(y ⟨{ s.world with script }, own⟩).2.world, s.own⟩
    have hworlds := congrArg Scene.world hscenes.eq_withScript
    rw [show (y ⟨{ s.world with script }, own⟩).2.world = _ from hworlds]
    exact .mk _ hscenes.script

/-- Does nothing and ends like that. -/
private def ended (r : Except Failure α) : Act σ α := fun s => (r, s)

private theorem ensuring_eq (x : Act σ α) (last : Act σ Unit) (s : Scene σ) :
    x.ensuring last s = (last >>= fun _ => ended (x s).1) (x s).2 := by
  rw [Act.ensuring, bind_apply]
  rcases last (x s).2 with ⟨_ | _, _⟩ <;> rfl

/-- Only what comes last can keep an interrupt from coming out, by failing itself. -/
theorem ensuring {last : Act σ Unit} (h : Admits (x s) (y t))
    (hlast : ∀ s' t', s'.Barring t' → Admits (last s') (last t')) :
    (∃ s', x s = (.error .interrupted, s') ∧ last.Fails s') ∨
      Admits (x.ensuring last s) (y.ensuring last t) := by
  rw [ensuring_eq, ensuring_eq]
  rcases h with hends | ⟨hend, hscenes⟩
  · rcases hs : last (x s).2 with ⟨f | _, s'⟩
    · rw [bind_error hs]
      by_cases hf : f = .interrupted
      · exact .inr (.inl (congrArg Except.error hf))
      · exact .inl ⟨_, Prod.ext hends rfl, f, s', hs, hf⟩
    · rw [bind_ok hs]
      exact .inr (.inl hends)
  · rw [hend]
    exact (hlast _ _ hscenes).next fun _ s' t' _ h' => .inr (.inr ⟨rfl, h'⟩)

end Admits

/-- What holds of the statement that is being run goes on to hold. -/
def Retains (I : Option String → Prop) (x : Act σ α) : Prop :=
  ∀ s, I s.world.statement → I (x s).2.world.statement

namespace Retains
variable {I : Option String → Prop} {x : Act σ α} {f : α → Act σ β}

theorem bind (hx : Retains I x) (hf : ∀ a, Retains I (f a)) : Retains I (x >>= f) := by
  intro s h
  have hfirst := hx s h
  rw [bind_apply]
  rcases hs : x s with ⟨e | a, s'⟩ <;> rw [hs] at hfirst
  · exact hfirst
  · exact hf a s' hfirst

theorem attempt (hx : Retains I x) : Retains I (Act.attempt x) := hx

theorem ensuring {last : Act σ Unit} (hx : Retains I x) (hlast : Retains I last) :
    Retains I (x.ensuring last) := by
  intro s h
  have hafter := hlast _ (hx s h)
  rw [Act.ensuring]
  rcases hs : last (x s).2 with ⟨e | _, s'⟩ <;> rw [hs] at hafter <;> exact hafter

theorem within {own : τ} {x : Act τ α} (hx : Retains I x) : Retains I (Act.within own x : Act σ α) :=
  fun s h => hx ⟨s.world, own⟩ h

end Retains

/-- What `x` comes to, an interrupt or else what `y` comes to where the engine does something else in the
place of interrupts. -/
structure CandidTo (I : Option String → Prop) (x y : Act σ α) : Prop where
  retains : Retains I x
  admits {s t : Scene σ} (h : s.Barring t) : Admits (x s) (y t)

abbrev Candid (I : Option String → Prop) (x : Act σ α) : Prop := CandidTo I x x

/-- The action keeps an interrupt to itself at most where `B` has it. -/
structure CandidUnless (I : Option String → Prop) (B : Scene σ → Prop) (x : Act σ α) : Prop where
  retains : Retains I x
  admits {s t : Scene σ} (h : s.Barring t) : B s ∨ Admits (x s) (x t)

/-- The engine interrupts the action: it would end otherwise, or lead to something else, if the engine did
something else in the place of interrupts. -/
def IsInterrupted (x : Act σ α) (s : Scene σ) : Prop :=
  ∃ t, s.Barring t ∧ ¬ ((x t).1 = (x s).1 ∧ (x s).2.Barring (x t).2)

namespace CandidTo
variable {I : Option String → Prop} {x y : Act σ α} {f g : α → Act σ β}

protected theorem pure (a : α) : Candid I (Pure.pure a : Act σ α) :=
  ⟨fun _ h => h, fun h => .inr ⟨rfl, h⟩⟩

theorem fail (e : Failure) : Candid I (Act.fail e : Act σ α) :=
  ⟨fun _ h => h, fun h => .inr ⟨rfl, h⟩⟩

theorem interrupted (y : Act σ α) : CandidTo I (Act.fail .interrupted) y :=
  ⟨fun _ h => h, fun _ => .inl rfl⟩

theorem bind (hx : CandidTo I x y) (hf : ∀ a, CandidTo I (f a) (g a)) : CandidTo I (x >>= f) (y >>= g) where
  retains := hx.retains.bind fun a => (hf a).retains
  admits h := ((hx.admits h).next fun a _ _ _ h' => .inr ((hf a).admits h')).resolve_left not_false

theorem discard (hx : CandidTo I x y) : CandidTo I (Functor.discard x) (Functor.discard y) :=
  hx.bind fun _ => .pure ()

/-- The end of the first action is looked at, and an interrupt is passed on. -/
theorem attempt {f g : Except Failure α → Act σ β} (hx : CandidTo I x y)
    (hf : ∀ ending, CandidTo I (f ending) (g ending))
    (hpass : ∀ s, (f (.error .interrupted) s).1 = .error .interrupted) :
    CandidTo I (Act.attempt x >>= f) (Act.attempt y >>= g) where
  retains := hx.retains.attempt.bind fun ending => (hf ending).retains
  admits h := ((hx.admits h).attempt (fun s' _ => .inr (hpass s')) fun ending _ _ _ h' =>
    .inr ((hf ending).admits h')).resolve_left not_false

/-- Whatever comes last never fails. -/
theorem ensuring {last : Act σ Unit} (hx : CandidTo I x y) (hlast : Candid I last)
    (hok : ∀ s, (last s).1 = .ok ()) : CandidTo I (x.ensuring last) (y.ensuring last) where
  retains := hx.retains.ensuring hlast.retains
  admits {s t} h := by
    refine ((hx.admits h).ensuring fun _ _ h' => hlast.admits h').resolve_left ?_
    rintro ⟨s', -, f, s'', hs, -⟩
    cases (hok s').symm.trans (congrArg Prod.fst hs)

theorem forM {f g : β → Act σ Unit} (hf : ∀ b, CandidTo I (f b) (g b)) (l : List β) :
    CandidTo I (l.forM f) (l.forM g) := by
  induction l with
  | nil => exact .pure ()
  | cons b l ih => exact (hf b).bind fun _ => ih

theorem option_forM {f g : β → Act σ Unit} (hf : ∀ b, CandidTo I (f b) (g b)) (o : Option β) :
    CandidTo I (o.forM f) (o.forM g) := by
  cases o with
  | none => exact .pure ()
  | some b => exact hf b

theorem raise {f? g? : Option Engine.Fault} (h : Engine.Barring f? g?) :
    CandidTo I (Act.raise f? : Act σ Unit) (Act.raise g?) := by
  rcases h with rfl | rfl
  · exact .interrupted _
  · cases g? with
    | none => exact .pure ()
    | some f => exact .fail _

theorem within {own : τ} {x y : Act τ α} (hx : CandidTo I x y) :
    CandidTo I (Act.within own x : Act σ α) (Act.within own y) where
  retains := hx.retains.within
  admits h := .within h (hx.admits h.within)

theorem own : Candid I (Act.own : Act σ σ) := by
  refine ⟨fun _ h => h, fun h => ?_⟩
  obtain ⟨script, h⟩ := h
  exact .inr ⟨rfl, .mk script h⟩

theorem modifyOwn (f : σ → σ) : Candid I (Act.modifyOwn f) := by
  refine ⟨fun _ h => h, fun h => ?_⟩
  obtain ⟨script, h⟩ := h
  exact .inr ⟨rfl, .mk script h⟩

/-- What is made of the world may go by the script. -/
theorem scripted {f g : World → Act σ β}
    (h : ∀ w script, w.script.Barring script → CandidTo I (f w) (g { w with script })) :
    CandidTo I (Act.world >>= f) (Act.world >>= g) where
  retains s := (h s.world s.world.script (.refl _)).retains s
  admits {s t} hst := by
    have hboth := (h s.world t.world.script hst.script).admits hst
    rwa [show { s.world with script := t.world.script } = t.world from
      (congrArg Scene.world hst.eq_withScript).symm] at hboth

/-- What is made of the world does not go by the script. -/
theorem world {f : World → Act σ β} (hsame : ∀ w script, f { w with script } = f w)
    (hf : ∀ w, Candid I (f w)) : Candid I (Act.world >>= f) :=
  scripted fun w script _ => (hsame w script).symm ▸ hf w

theorem modifyWorld {f g : World → World} (hstatement : ∀ w, I w.statement → I (f w).statement)
    (h : ∀ w script, w.script.Barring script →
      g { w with script } = { f w with script := (g { w with script }).script } ∧
        (f w).script.Barring (g { w with script }).script) :
    CandidTo I (Act.modifyWorld f : Act σ Unit) (Act.modifyWorld g) where
  retains s := hstatement s.world
  admits {s t} hst := by
    obtain ⟨script, hscript⟩ := hst
    obtain ⟨hsame, hscripts⟩ := h s.world script hscript
    refine .inr ⟨rfl, ?_⟩
    show Barring ⟨f s.world, s.own⟩ ⟨g { s.world with script }, s.own⟩
    rw [hsame]
    exact .mk _ hscripts

/-- The script stays as it is, and what is done does not go by it. -/
theorem change {f : World → World} (hsame : ∀ w script, f { w with script } = { f w with script })
    (hstatement : ∀ w, (f w).statement = w.statement) :
    Candid I (Act.modifyWorld f : Act σ Unit) := by
  refine modifyWorld (fun w h => by rwa [hstatement]) fun w script h => ?_
  have hscript : (f w).script = w.script := (congrArg World.script (hsame w w.script) :)
  rw [hsame, hscript]
  exact ⟨rfl, h⟩

theorem note (d : Deed) : Candid I (Act.note d : Act σ Unit) :=
  change (fun _ _ => rfl) fun _ => rfl

theorem event (e : Engine.Event) : Candid I (Act.event e : Act σ Unit) := note _

/-- Something may be refused in the end. -/
private theorem refusing {p : Prop} [Decidable p] (e : Failure) :
    Candid I (if p then Act.fail e else Pure.pure () : Act σ Unit) := by
  split
  · exact .fail e
  · exact .pure ()

theorem flush (k : Sink) : Candid I (Act.flush k : Act σ Unit) := by
  cases k with
  | stdout => exact .pure ()
  | stderr => exact .pure ()
  | opened id name =>
    refine world (fun _ _ => rfl) fun w => ?_
    cases w.handle? id with
    | none => exact .fail _
    | some h =>
      dsimp only
      split
      · exact world (fun _ _ => rfl) fun _ => .bind (change (fun _ _ => rfl) fun _ => rfl) fun _ =>
          refusing _
      · exact .pure ()

theorem write (k : Sink) (text : List Char) :
    Candid I (Act.write k text : Act σ Unit) := by
  cases k with
  | stdout => exact note _
  | stderr => exact note _
  | opened id name =>
    refine world (fun _ _ => rfl) fun w => ?_
    cases w.handle? id with
    | none => exact .fail _
    | some h =>
      refine .bind (change (fun _ _ => rfl) fun _ => rfl) fun _ => .bind (note _) fun _ => ?_
      split
      · exact flush _
      · exact .pure ()

theorem close (k : Sink) : Candid I (Act.close k : Act σ Unit) := by
  cases k with
  | stdout => exact .pure ()
  | stderr => exact .pure ()
  | opened id name =>
    refine world (fun _ _ => rfl) fun w => ?_
    cases w.handle? id with
    | none => exact .pure ()
    | some h =>
      exact world (fun _ _ => rfl) fun _ => .bind (change (fun _ _ => rfl) fun _ => rfl) fun _ =>
        .bind (note _) fun _ => refusing _

/-- A name is checked before anything is opened by it. -/
private theorem named {name : String} (hx : Candid I x) :
    Candid I ((if name.toList.contains '\x00' then Act.fail .zeroCharacter else Pure.pure () :
      Act σ Unit) >>= fun _ => x) := by
  refine .bind ?_ fun _ => hx
  split
  · exact .fail _
  · exact .pure ()

private theorem handled (name : String) (target : Target) :
    Candid I (do
      let k := Sink.opened (← Act.world).handles.length name
      Act.modifyWorld fun w => { w with handles := w.handles ++ [{ target }] }
      Act.note (.opened k)
      pure k : Act σ Sink) :=
  world (fun _ _ => rfl) fun _ => .bind (change (fun _ _ => rfl) fun _ => rfl) fun _ =>
    .bind (note _) fun _ => .pure _

theorem openFile (name : String) : Candid I (Act.openFile name : Act σ Sink) := by
  refine named (world (fun _ _ => rfl) fun w => ?_)
  split
  · exact .bind (change (fun _ _ => rfl) fun _ => rfl) fun _ => handled _ _
  · exact .bind (change (fun _ _ => rfl) fun _ => rfl) fun _ => handled _ _
  · exact .fail _

theorem openCommand (line : String) :
    Candid I (Act.openCommand line : Act σ Sink) := named (handled _ _)

theorem openSource? (name : String) (ends : Text.LineEnds) :
    Candid I (Act.openSource? name ends : Act σ (Option Source)) := by
  refine named (world (fun _ _ => rfl) fun w => ?_)
  split
  · exact .pure _
  · exact .pure none

theorem readLine (f : Source) :
    Candid I (Act.readLine f : Act σ (List Char × Source)) := by
  refine world (fun _ _ => rfl) fun w => ?_
  split
  · exact .pure _
  · exact .fail _

theorem lineLimit (f : Source) : Candid I (Act.lineLimit f : Act σ Nat) :=
  world (fun _ _ => rfl) fun _ => .pure _

end CandidTo

namespace CandidUnless
variable {I : Option String → Prop} {B B' : Scene σ → Prop} {x : Act σ α} {f : α → Act σ β}

theorem mono (hx : CandidUnless I B x) (hB : ∀ s, B s → B' s) : CandidUnless I B' x :=
  ⟨hx.retains, fun {s _} h => (hx.admits h).imp_left (hB s)⟩

theorem never (hx : Candid I x) : CandidUnless I B x := ⟨hx.retains, fun h => .inr (hx.admits h)⟩

/-- What comes next may keep an interrupt to itself in the scene that it starts from. -/
theorem after (hx : Candid I x)
    (hf : ∀ a, CandidUnless I (fun s' => ∀ s, x s = (.ok a, s') → B s) (f a)) :
    CandidUnless I B (x >>= f) where
  retains := hx.retains.bind fun a => (hf a).retains
  admits {s _} h := (hx.admits h).next fun a _ _ hs h' => ((hf a).admits h').imp_left fun hB => hB s hs

theorem before (hx : CandidUnless I B x) (hf : ∀ a, Candid I (f a)) : CandidUnless I B (x >>= f) where
  retains := hx.retains.bind fun a => (hf a).retains
  admits h := by
    rcases hx.admits h with hB | hends
    · exact .inl hB
    · exact hends.next fun a _ _ _ h' => .inr ((hf a).admits h')

theorem within {own : τ} {B : Scene τ → Prop} {x : Act τ α} (hx : CandidUnless I B x) :
    CandidUnless I (fun s => B ⟨s.world, own⟩) (Act.within own x : Act σ α) where
  retains := hx.retains.within
  admits h := (hx.admits h.within).imp_right (.within h)

/-- The end of the action is looked at, and an interrupt is passed on. -/
theorem attempt {f : Except Failure α → Act σ β} (hx : CandidUnless I B x)
    (hf : ∀ ending, Candid I (f ending)) (hpass : ∀ s, (f (.error .interrupted) s).1 = .error .interrupted) :
    CandidUnless I B (Act.attempt x >>= f) where
  retains := hx.retains.attempt.bind fun ending => (hf ending).retains
  admits h := by
    rcases hx.admits h with hB | hends
    · exact .inl hB
    · exact hends.attempt (fun s' _ => .inr (hpass s')) fun ending _ _ _ h' => .inr ((hf ending).admits h')

/-- The end of the action is looked at, and an interrupt is passed on. What comes next may keep one to
itself. -/
theorem afterAttempt {f : Except Failure α → Act σ β} (hx : Candid I x)
    (hf : ∀ ending, CandidUnless I (fun s' => ∀ s, x s = (ending, s') → B s) (f ending))
    (hpass : ∀ s, (f (.error .interrupted) s).1 = .error .interrupted) :
    CandidUnless I B (Act.attempt x >>= f) where
  retains := hx.retains.attempt.bind fun ending => (hf ending).retains
  admits {s _} h := (hx.admits h).attempt (fun s' _ => .inr (hpass s')) fun ending _ _ hs h' =>
    ((hf ending).admits h').imp_left fun hB => hB s hs

/-- Whatever is done about an interrupt may fail. -/
theorem handling {f : Except Failure α → Act σ β} (hx : Candid I x) (hf : ∀ ending, Candid I (f ending)) :
    CandidUnless I (fun s => ∃ s', x s = (.error .interrupted, s') ∧
        (f (.error .interrupted) s').1 ≠ .error .interrupted) (Act.attempt x >>= f) where
  retains := hx.retains.attempt.bind fun ending => (hf ending).retains
  admits h := (hx.admits h).attempt
    (fun _ hs => (em _).symm.imp_left fun hends => ⟨_, hs, hends⟩) fun ending _ _ _ h' =>
      .inr ((hf ending).admits h')

theorem ensuring {last : Act σ Unit} (hx : Candid I x) (hlast : Candid I last) :
    CandidUnless I (fun s => ∃ s', x s = (.error .interrupted, s') ∧ last.Fails s')
      (x.ensuring last) where
  retains := hx.retains.ensuring hlast.retains
  admits h := (hx.admits h).ensuring fun _ _ h' => hlast.admits h'

/-- An interrupted action ends with the interrupt, or keeps it to itself. -/
theorem of_isInterrupted (hx : CandidUnless I B x) {s : Scene σ} (h : x.IsInterrupted s) :
    B s ∨ (x s).1 = .error .interrupted := by
  obtain ⟨t, hst, hdiffers⟩ := h
  exact (hx.admits hst).imp_right fun hends => hends.resolve_right hdiffers

end CandidUnless
end Act
end SqlConsole

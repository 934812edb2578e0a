import SqlConsole.Proofs.World.Agree

/-! Actions that do not go by what was done before. After another past they end alike, and they do the
same. -/
namespace SqlConsole

/-- The relation of two pasts lasts when the same is done after both. -/
def Lasting (T : List Deed → List Deed → Prop) : Prop :=
  ∀ d past past', T past past' → T (d :: past) (d :: past')

namespace Scene
variable {σ : Type}

def withPast (s : Scene σ) (past : List Deed) : Scene σ := { s with world := { s.world with past } }

/-- The scenes are the same but for their pasts, which `T` relates. -/
inductive Twins (T : List Deed → List Deed → Prop) (s : Scene σ) : Scene σ → Prop where
  | mk (past : List Deed) (h : T s.world.past past) : Twins T s (s.withPast past)

namespace Twins
variable {T : List Deed → List Deed → Prop} {s t : Scene σ}

theorem past (h : Twins T s t) : T s.world.past t.world.past := by
  cases h with
  | mk past h => exact h

theorem own (h : Twins T s t) : t.own = s.own := by
  cases h
  rfl

theorem eq_withPast (h : Twins T s t) : t = s.withPast t.world.past := by
  cases h
  rfl

end Twins
end Scene

namespace Act
open Scene (Twins)

variable {σ τ α β : Type}

/-- What an inner action does to the pasts is done to those of the outer scenes. -/
theorem Agrees.within_twins {T : List Deed → List Deed → Prop} {own : τ} {x y : Act τ α}
    (hxy : Agrees (Twins T) x y) :
    Agrees (Twins T : Scene σ → Scene σ → Prop) (Act.within own x) (Act.within own y) := by
  intro s t h
  obtain ⟨past, h⟩ := h
  have hinner : Twins T (⟨s.world, own⟩ : Scene τ) ⟨{ s.world with past }, own⟩ := .mk past h
  obtain ⟨hend, htwins⟩ := hxy _ _ hinner
  refine ⟨hend, ?_⟩
  show Twins T ⟨(x ⟨s.world, own⟩).2.world, s.own⟩
    ⟨(y ⟨{ s.world with past }, own⟩).2.world, s.own⟩
  rw [htwins.eq_withPast]
  exact .mk _ htwins.past

/-- Pasts that have something lasting to do with each other have it after the action again, and all
else is the same after both. -/
structure Oblivious (x : Act σ α) : Prop where
  agrees {T : List Deed → List Deed → Prop} (hT : Lasting T) : Agrees (Twins T) x x

namespace Oblivious
variable {x : Act σ α} {f : α → Act σ β}

protected theorem pure (a : α) : Oblivious (Pure.pure a : Act σ α) := ⟨fun _ => .pure a⟩

theorem fail (e : Failure) : Oblivious (Act.fail e : Act σ α) := ⟨fun _ => .fail e⟩

theorem bind (hx : Oblivious x) (hf : ∀ a, Oblivious (f a)) : Oblivious (x >>= f) :=
  ⟨fun hT => (hx.agrees hT).bind fun a => (hf a).agrees hT⟩

theorem attempt (hx : Oblivious x) : Oblivious (Act.attempt x) :=
  ⟨fun hT => (hx.agrees hT).attempt⟩

theorem ensuring {last : Act σ Unit} (hx : Oblivious x) (hlast : Oblivious last) :
    Oblivious (x.ensuring last) :=
  ⟨fun hT => (hx.agrees hT).ensuring (hlast.agrees hT)⟩

theorem forM {f : β → Act σ Unit} (hf : ∀ b, Oblivious (f b)) (l : List β) : Oblivious (l.forM f) :=
  ⟨fun hT => .forM fun b _ => (hf b).agrees hT⟩

theorem option_forM {f : β → Act σ Unit} (hf : ∀ b, Oblivious (f b)) (o : Option β) :
    Oblivious (o.forM f) := by
  cases o with
  | none => exact .pure ()
  | some b => exact hf b

theorem discard (hx : Oblivious x) : Oblivious (Functor.discard x) := hx.bind fun _ => .pure ()

theorem raise (f? : Option Engine.Fault) : Oblivious (Act.raise f? : Act σ Unit) :=
  ⟨fun _ => .raise f?⟩

theorem within {own : τ} {x : Act τ α} (hx : Oblivious x) :
    Oblivious (Act.within own x : Act σ α) := ⟨fun hT => (hx.agrees hT).within_twins⟩

theorem own : Oblivious (Act.own : Act σ σ) := by
  refine ⟨fun hT s t h => ?_⟩
  exact ⟨congrArg Except.ok h.own.symm, h⟩

theorem modifyOwn (f : σ → σ) : Oblivious (Act.modifyOwn f) := by
  refine ⟨fun hT s t h => ?_⟩
  obtain ⟨past, h⟩ := h
  exact ⟨rfl, .mk past h⟩

/-- What is made of the world may not go by the past. -/
theorem world {f : World → Act σ β} (hsame : ∀ w past, f { w with past } = f w)
    (hf : ∀ w, Oblivious (f w)) : Oblivious (Act.world >>= f) := by
  refine ⟨fun hT s t h => ?_⟩
  have hboth := (hf s.world).agrees hT s t h
  obtain ⟨past, h⟩ := h
  refine ⟨hboth.1.trans ?_, ?_⟩
  · exact congrArg (fun x => (x (s.withPast past)).1) (hsame s.world past).symm
  · exact congrArg (fun x => (x (s.withPast past)).2) (hsame s.world past).symm ▸ hboth.2

theorem modifyWorld {f : World → World} (hsame : ∀ w past, f { w with past } = { f w with past }) :
    Oblivious (Act.modifyWorld f : Act σ Unit) := by
  refine ⟨fun hT s t h => ?_⟩
  obtain ⟨past, h⟩ := h
  refine ⟨rfl, ?_⟩
  have hpast : (f s.world).past = s.world.past := by
    have hfix := hsame s.world s.world.past
    exact (congrArg World.past hfix :)
  show Twins _ ⟨f s.world, s.own⟩ ⟨f { s.world with past }, s.own⟩
  rw [hsame s.world past]
  exact .mk past (by rwa [hpast])

theorem note (d : Deed) : Oblivious (Act.note d : Act σ Unit) := by
  refine ⟨fun hT s t h => ?_⟩
  obtain ⟨past, h⟩ := h
  exact ⟨rfl, .mk (d :: past) (hT d _ _ h)⟩

theorem event (e : Engine.Event) : Oblivious (Act.event e : Act σ Unit) := note _

/-- Something may be refused in the end. -/
private theorem refusing {p : Prop} [Decidable p] (e : Failure) :
    Oblivious (if p then Act.fail e else Pure.pure () : Act σ Unit) := by
  split
  · exact .fail e
  · exact .pure ()

theorem flush (k : Sink) : Oblivious (Act.flush k : Act σ Unit) := by
  cases k with
  | stdout => exact .pure ()
  | stderr => exact .pure ()
  | opened id name =>
    refine world (fun _ _ => rfl) fun w => ?_
    cases w.handle? id with
    | none => exact .fail _
    | some h =>
      dsimp only
      split
      · exact world (fun _ _ => rfl) fun _ => (modifyWorld fun _ _ => rfl).bind fun _ => refusing _
      · exact .pure ()

theorem write (k : Sink) (text : List Char) : Oblivious (Act.write k text : Act σ Unit) := by
  cases k with
  | stdout => exact note _
  | stderr => exact note _
  | opened id name =>
    refine world (fun _ _ => rfl) fun w => ?_
    cases w.handle? id with
    | none => exact .fail _
    | some h =>
      refine (modifyWorld fun _ _ => rfl).bind fun _ => (note _).bind fun _ => ?_
      split
      · exact flush _
      · exact .pure ()

theorem close (k : Sink) : Oblivious (Act.close k : Act σ Unit) := by
  cases k with
  | stdout => exact .pure ()
  | stderr => exact .pure ()
  | opened id name =>
    refine world (fun _ _ => rfl) fun w => ?_
    cases w.handle? id with
    | none => exact .pure ()
    | some h =>
      exact world (fun _ _ => rfl) fun _ => (modifyWorld fun _ _ => rfl).bind fun _ =>
        (note _).bind fun _ => refusing _

/-- A name is checked before anything is opened by it. -/
private theorem checked {name : String} (hx : Oblivious x) :
    Oblivious ((if name.toList.contains '\x00' then Act.fail .zeroCharacter else Pure.pure () :
      Act σ Unit) >>= fun _ => x) := by
  refine .bind ?_ fun _ => hx
  split
  · exact .fail _
  · exact .pure ()

private theorem added (name : String) (target : Target) :
    Oblivious (do
      let k := Sink.opened (← Act.world).handles.length name
      Act.modifyWorld fun w => { w with handles := w.handles ++ [{ target }] }
      Act.note (.opened k)
      pure k : Act σ Sink) :=
  world (fun _ _ => rfl) fun _ => (modifyWorld fun _ _ => rfl).bind fun _ => (note _).bind fun _ => .pure _

theorem openFile (name : String) : Oblivious (Act.openFile name : Act σ Sink) := by
  refine checked (world (fun _ _ => rfl) fun w => ?_)
  split
  · exact (modifyWorld fun _ _ => rfl).bind fun _ => added _ _
  · exact (modifyWorld fun _ _ => rfl).bind fun _ => added _ _
  · exact .fail _

theorem openCommand (line : String) : Oblivious (Act.openCommand line : Act σ Sink) :=
  checked (added _ _)

theorem openSource? (name : String) (ends : Text.LineEnds) :
    Oblivious (Act.openSource? name ends : Act σ (Option Source)) := by
  refine checked (world (fun _ _ => rfl) fun w => ?_)
  split
  · exact .pure _
  · exact .pure none

theorem readLine (f : Source) : Oblivious (Act.readLine f : Act σ (List Char × Source)) := by
  refine world (fun _ _ => rfl) fun w => ?_
  split
  · exact .pure _
  · exact .fail _

theorem lineLimit (f : Source) : Oblivious (Act.lineLimit f : Act σ Nat) :=
  world (fun _ _ => rfl) fun _ => .pure _

/-- What was done stays done. -/
theorem suffix (hx : Oblivious x) (s : Scene σ) : s.world.past <:+ (x s).2.world.past := by
  have hT : Lasting fun past _ => s.world.past <:+ past := by
    intro d past _ h
    exact h.trans (List.suffix_cons d past)
  have hstart : Twins (fun past _ => s.world.past <:+ past) s s :=
    .mk s.world.past List.suffix_rfl
  exact (hx.agrees hT s s hstart).2.past

end Oblivious
end Act
end SqlConsole

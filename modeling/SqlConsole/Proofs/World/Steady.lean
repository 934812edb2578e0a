import SqlConsole.Proofs.World.Agree
import SqlConsole.Proofs.World.Ledger

/-! Two worlds that differ in their pasts at most, and what is done alike in both. -/
namespace SqlConsole

/-- No text begins, and text is written to sinks of one kind only, which goes by their numbers. -/
def Deed.Plain (K : Option Nat → Prop) : Deed → Prop
  | .began _ => False
  | .wrote k _ => K k.id?
  | _ => True

namespace World

/-- What is left alone: the engine's log, the statement that is run, and the open sinks that are not of the
one kind. -/
structure Preserves (K : Option Nat → Prop) (w v : World) : Prop where
  logging : v.logging = w.logging
  statement : v.statement = w.statement
  isOpen : ∀ k : Sink, ¬ K k.id? → w.IsOpen k → v.IsOpen k

/-- `W` relates worlds that differ in their pasts at most. It still does after the same plain deed, and after
a change that spares what it may go by. A sink that is opened is of the one kind. -/
structure Steady (K : Option Nat → Prop) (W : World → World → Prop) : Prop where
  same {w w' : World} (h : W w w') : w' = { w with past := w'.past }
  changed {w w' v : World} (h : W w w') (hpast : v.past = w.past) (hpreserves : w.Preserves K v) :
    W v { v with past := w'.past }
  noted {w w' : World} {d : Deed} (h : W w w') (hd : d.Plain K) :
    W { w with past := d :: w.past } { w' with past := d :: w'.past }
  fresh {w w' : World} (h : W w w') : K (some w.handles.length)

namespace Preserves
variable {K : Option Nat → Prop} {w v : World}

theorem of_handles (hlogging : v.logging = w.logging) (hstatement : v.statement = w.statement)
    (hhandles : v.handles = w.handles) : w.Preserves K v where
  logging := hlogging
  statement := hstatement
  isOpen k _ hk := by
    cases k with
    | opened id name => rwa [IsOpen, target?, handle?, hhandles]
    | _ => trivial

/-- A sink of the one kind may get another handle. -/
theorem setHandle {id : Nat} (hid : K (some id)) (files : World.Files) (h : Handle) :
    w.Preserves K ({ w with files }.setHandle id h) where
  logging := rfl
  statement := rfl
  isOpen k hk hopen := by
    cases k with
    | opened i name =>
      have hne : id ≠ i := fun heq => hk (heq ▸ hid)
      show ((World.setHandle { w with files } id h).handle? i |>.map (·.target)).isSome = true
      rw [handle?_setHandle_of_ne hne]
      exact hopen
    | _ => trivial

theorem addHandle (h : Handle) : w.Preserves K { w with handles := w.handles ++ [h] } where
  logging := rfl
  statement := rfl
  isOpen _ _ hopen := hopen.add w.files w.past h

end Preserves
end World

namespace Act
open Scene (Related)

variable {σ τ α β : Type}

/-- What `R` relates the action takes to what it relates again, and it ends alike. -/
abbrev Respects (R : Scene σ → Scene σ → Prop) (x : Act σ α) : Prop := Agrees R x x

namespace Agrees

/-- What goes on may rely on how the action can end. -/
theorem bind_of {R : Scene σ → Scene τ → Prop} {x : Act σ α} {y : Act τ α} {f : α → Act σ β}
    {g : α → Act τ β} {p : α → Prop} (hxy : Agrees R x y)
    (hp : ∀ s t, R s t → ∀ a, (x s).1 = .ok a → p a) (hfg : ∀ a, p a → Agrees R (f a) (g a)) :
    Agrees R (x >>= f) (y >>= g) := by
  intro s t h
  obtain ⟨hend, hscenes⟩ := hxy s t h
  have hpost := hp s t h
  rw [bind_apply, bind_apply]
  rcases hx : x s with ⟨e | a, s'⟩ <;> rcases hy : y t with ⟨e' | a', t'⟩ <;>
    rw [hx, hy] at hend hscenes
  · cases hend
    exact ⟨rfl, hscenes⟩
  · cases hend
  · cases hend
  · cases hend
    exact hfg a (hpost a (by rw [hx])) s' t' hscenes

theorem option_forM {R : Scene σ → Scene τ → Prop} {f : β → Act σ Unit} {g : β → Act τ Unit}
    {o : Option β} (h : ∀ b ∈ o, Agrees R (f b) (g b)) : Agrees R (o.forM f) (o.forM g) := by
  cases o with
  | none => exact .pure ()
  | some b => exact h b rfl

theorem discard {R : Scene σ → Scene τ → Prop} {x : Act σ α} {y : Act τ α} (hxy : Agrees R x y) :
    Agrees R (Functor.discard x) (Functor.discard y) := hxy.bind fun _ => .pure ()

variable {W : World → World → Prop} {O : σ → σ → Prop}

/-- What an inner action keeps for itself is the same on both sides. -/
theorem within_same {own : τ} {x y : Act τ α} (hxy : Agrees (Related W Eq) x y) :
    Agrees (Related W O) (Act.within own x) (Act.within own y) := by
  intro s t h
  obtain ⟨hend, hscenes⟩ := hxy ⟨s.world, own⟩ ⟨t.world, own⟩ ⟨h.world, rfl⟩
  exact ⟨hend, hscenes.world, h.own⟩

/-- What is made of what is kept may differ where that does. -/
theorem own_of {f g : σ → Act σ β}
    (h : ∀ o o', O o o' → Agrees (Related W O) (f o) (g o')) :
    Agrees (Related W O) (Act.own >>= f) (Act.own >>= g) :=
  fun s t hst => h s.own t.own hst.own s t hst

theorem own_same {f : τ → Act τ β} (h : ∀ o, Respects (Related W Eq) (f o)) :
    Respects (Related W Eq) (Act.own >>= f) :=
  .own_of fun o _ heq => heq ▸ h o

theorem modifyOwn {f g : σ → σ} (h : ∀ o o', O o o' → O (f o) (g o')) :
    Agrees (Related W O) (Act.modifyOwn f) (Act.modifyOwn g) :=
  fun _ _ hst => ⟨rfl, hst.world, h _ _ hst.own⟩

theorem modifyOwn_same (f : τ → τ) : Respects (Related W Eq) (Act.modifyOwn f) :=
  .modifyOwn fun _ _ h => congrArg f h

end Agrees

end Act

namespace World.Steady
open Act (Agrees Respects)
open Scene (Related)

variable {K : Option Nat → Prop} {W : World → World → Prop} {σ α β : Type} {O : σ → σ → Prop}
  {k : Sink} (hW : Steady K W)
include hW

/-- What is made of the world may not go by the past. -/
theorem world {f g : World → Act σ β} (hsame : ∀ w past, g { w with past } = g w)
    (hfg : ∀ w, Agrees (Related W O) (f w) (g w)) :
    Agrees (Related W O) (Act.world >>= f) (Act.world >>= g) := by
  refine .world fun s t h => ?_
  have heq : g t.world = g s.world := by
    rw [hW.same h.world]
    exact hsame _ _
  rw [heq]
  exact hfg s.world

theorem modifyWorld {f : World → World} (hsame : ∀ w past, f { w with past } = { f w with past })
    (hpreserves : ∀ w : World, w.Preserves K (f w)) :
    Respects (Related W O) (Act.modifyWorld f) := by
  refine .modifyWorld fun s t h => ⟨?_, h.own⟩
  have hpast : (f s.world).past = s.world.past := by
    have hfix := hsame s.world s.world.past
    exact (congrArg World.past hfix :)
  show W (f s.world) (f t.world)
  rw [hW.same h.world, hsame s.world t.world.past]
  exact hW.changed h.world hpast (hpreserves _)

theorem note {d : Deed} (hd : d.Plain K) : Respects (Related W O) (Act.note d) :=
  .modifyWorld fun _ _ h => ⟨hW.noted h.world hd, h.own⟩

theorem event (e : Engine.Event) : Respects (Related W O) (Act.event e) :=
  hW.note (d := .engine e) trivial

omit hW in
/-- Something may be refused in the end. -/
private theorem refusing {p : Prop} [Decidable p] (e : Failure) :
    Respects (Related W O) (if p then Act.fail e else pure () : Act σ Unit) := by
  split
  · exact .fail e
  · exact .pure ()

theorem flush (hk : K k.id?) : Respects (Related W O) (Act.flush k) := by
  cases k with
  | opened id name =>
    refine hW.world (fun _ _ => rfl) fun w => ?_
    cases w.handle? id with
    | none => exact .fail _
    | some h =>
      dsimp only
      split
      · exact hW.world (fun _ _ => rfl) fun _ =>
          .bind (hW.modifyWorld (fun _ _ => rfl) fun _ => .setHandle hk _ _) fun _ => refusing _
      · exact .pure ()
  | _ => exact .pure ()

theorem write (hk : K k.id?) (text : List Char) : Respects (Related W O) (Act.write k text) := by
  cases k with
  | opened id name =>
    refine hW.world (fun _ _ => rfl) fun w => ?_
    cases w.handle? id with
    | none => exact .fail _
    | some h =>
      refine .bind (hW.modifyWorld (fun _ _ => rfl) fun w => .setHandle hk w.files _) fun _ =>
        .bind (hW.note hk) fun _ => ?_
      split
      · exact hW.flush hk
      · exact .pure ()
  | _ => exact hW.note hk

theorem close (hk : K k.id?) : Respects (Related W O) (Act.close k) := by
  cases k with
  | opened id name =>
    refine hW.world (fun _ _ => rfl) fun w => ?_
    cases w.handle? id with
    | none => exact .pure ()
    | some h =>
      exact hW.world (fun _ _ => rfl) fun _ =>
        .bind (hW.modifyWorld (fun _ _ => rfl) fun _ => .setHandle hk _ _) fun _ =>
          .bind (hW.note (d := .closed _) trivial) fun _ => refusing _
  | _ => exact .pure ()

omit hW in
/-- A name is checked before anything is opened by it. -/
private theorem checked {x : Act σ α} {name : String} (hx : Respects (Related W O) x) :
    Respects (Related W O) ((if name.toList.contains '\x00' then Act.fail .zeroCharacter else pure () :
      Act σ Unit) >>= fun _ => x) := by
  refine .bind ?_ fun _ => hx
  split
  · exact .fail _
  · exact .pure ()

private theorem added (name : String) (target : Target) :
    Respects (Related W O) (do
      let k := Sink.opened (← Act.world).handles.length name
      Act.modifyWorld fun w => { w with handles := w.handles ++ [{ target }] }
      Act.note (.opened k)
      pure k : Act σ Sink) :=
  hW.world (fun _ _ => rfl) fun _ => .bind (hW.modifyWorld (fun _ _ => rfl) fun _ => .addHandle _) fun _ =>
    .bind (hW.note (d := .opened _) trivial) fun _ => .pure _

theorem openFile (name : String) : Respects (Related W O) (Act.openFile name : Act σ Sink) := by
  have hempty (p : World.Path) : Respects (Related W O)
      (Act.modifyWorld fun w => { w with files := w.files.put p [] }) :=
    hW.modifyWorld (fun _ _ => rfl) fun _ => .of_handles rfl rfl rfl
  refine checked (hW.world (fun _ _ => rfl) fun w => ?_)
  split
  · exact Agrees.bind (hempty _) fun _ => hW.added _ _
  · exact Agrees.bind (hempty _) fun _ => hW.added _ _
  · exact .fail _

theorem openCommand (line : String) : Respects (Related W O) (Act.openCommand line : Act σ Sink) :=
  checked (hW.added _ _)

theorem openSource? (name : String) (ends : Text.LineEnds) :
    Respects (Related W O) (Act.openSource? name ends : Act σ (Option Source)) := by
  refine checked (hW.world (fun _ _ => rfl) fun w => ?_)
  split
  · exact .pure _
  · exact .pure none

theorem readLine (f : Source) : Respects (Related W O) (Act.readLine f : Act σ (List Char × Source)) := by
  refine hW.world (fun _ _ => rfl) fun w => ?_
  split
  · exact .pure _
  · exact .fail _

theorem lineLimit (f : Source) : Respects (Related W O) (Act.lineLimit f : Act σ Nat) :=
  hW.world (fun _ _ => rfl) fun _ => .pure _

end World.Steady

namespace Act
variable {σ : Type}

/-! The number of a sink that is opened. -/

private theorem id_of_checked {name : String} {x : Act σ Sink} {s : Scene σ} {k : Sink} {n : Nat}
    (hx : (x s).1 = .ok k → k.id? = some n)
    (hk : (((if name.toList.contains '\x00' then Act.fail .zeroCharacter else pure () : Act σ Unit) >>=
      fun _ => x) s).1 = .ok k) : k.id? = some n := by
  by_cases hzero : name.toList.contains '\x00'
  · rw [if_pos hzero] at hk
    cases hk
  · rw [if_neg hzero] at hk
    exact hx hk

theorem id_of_openFile {name : String} {s : Scene σ} {k : Sink} (h : (Act.openFile name s).1 = .ok k) :
    k.id? = some s.world.handles.length := by
  refine id_of_checked (fun hk => ?_) h
  rw [bind_apply, Act.world] at hk
  dsimp only at hk
  cases hspot : s.world.files.spot name with
  | none =>
    rw [hspot] at hk
    cases hk
  | some spot =>
    rw [hspot] at hk
    cases spot with
    | folder => cases hk
    | _ =>
      cases hk
      rfl

theorem id_of_openCommand {line : String} {s : Scene σ} {k : Sink}
    (h : (Act.openCommand line s).1 = .ok k) : k.id? = some s.world.handles.length :=
  id_of_checked (fun hk => by cases hk; rfl) h

end Act
end SqlConsole

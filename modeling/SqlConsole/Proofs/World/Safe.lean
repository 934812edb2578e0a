import SqlConsole.Proofs.World.Ensures

/-! Actions that keep what holds, and that fail in no other way than they may. -/
namespace SqlConsole.Act

/-- What is made of the world is done in that world. -/
theorem Ensures.inWorld {σ α : Type} {P : Scene σ → Prop} {Q : α → Scene σ → Prop}
    {E : Failure → Scene σ → Prop} {f : World → Act σ α}
    (h : ∀ w, Ensures (fun s => s.world = w ∧ P s) (f w) Q E) : Ensures P (Act.world >>= f) Q E :=
  fun s hs => h s.world s ⟨rfl, hs⟩

/-- What is known of a failure may be forgotten. -/
theorem Ensures.onError {σ α : Type} {P : Scene σ → Prop} {Q : α → Scene σ → Prop}
    {E E' : Failure → Scene σ → Prop} {x : Act σ α} (h : Ensures P x Q E) (hE : ∀ f s, E f s → E' f s) :
    Ensures P x Q E' := h.mono (fun _ hs => hs) (fun _ _ hs => hs) hE

/-- An action that is only done under a condition, and what comes after it in any case. -/
theorem Ensures.whether {σ α : Type} {P : Scene σ → Prop} {Q : α → Scene σ → Prop}
    {E : Failure → Scene σ → Prop} {p : Prop} [Decidable p] {x : Act σ Unit} {f : Unit → Act σ α}
    (hx : Ensures P x (fun _ => P) E) (hf : Ensures P (f ()) Q E) :
    Ensures P (if p then x >>= f else f ()) Q E := by
  split
  · exact .bind hx fun _ => hf
  · exact hf

/-- However the action ends, the scene that it leads to has what both ends have. -/
theorem Ensures.leads {σ α : Type} {P R : Scene σ → Prop} {Q : α → Scene σ → Prop}
    {E : Failure → Scene σ → Prop} {x : Act σ α} (h : Ensures P x Q E) {s : Scene σ} (hs : P s)
    (hQ : ∀ a t, Q a t → R t) (hE : ∀ f t, E f t → R t) : R (x s).2 := by
  have hends := h s hs
  rcases hx : x s with ⟨f | a, t⟩ <;> rw [hx] at hends
  · exact hE f t hends
  · exact hQ a t hends

variable {σ τ α β : Type} {I : Scene σ → Prop} {F G : Failure → Prop} {x : Act σ α}

/-- However the action ends, what held before holds after it, and it fails only as `F` allows. -/
def Safe (I : Scene σ → Prop) (F : Failure → Prop) (x : Act σ α) : Prop :=
  Ensures I x (fun _ => I) (fun e s => I s ∧ F e)

namespace Safe

protected theorem pure (a : α) : Safe I F (Pure.pure a : Act σ α) := fun _ h => h

theorem fail {e : Failure} (he : F e) : Safe I F (Act.fail e : Act σ α) := fun _ h => ⟨h, he⟩

theorem bind {f : α → Act σ β} (hx : Safe I F x) (hf : ∀ a, Safe I F (f a)) : Safe I F (x >>= f) :=
  Ensures.bind hx hf

/-- What comes next may rely on what is known of the first result. -/
theorem given {R : α → Prop} {f : α → Act σ β}
    (hx : Ensures I x (fun a s => R a ∧ I s) (fun e s => I s ∧ F e))
    (hf : ∀ a, R a → Safe I F (f a)) : Safe I F (x >>= f) :=
  Ensures.bind hx fun a => .assume (hf a)

theorem discard (hx : Safe I F x) : Safe I F (Functor.discard x) := hx.bind fun _ => .pure ()

theorem forM {f : β → Act σ Unit} (hf : ∀ b, Safe I F (f b)) (l : List β) : Safe I F (l.forM f) :=
  Ensures.forM hf l

/-- The end of the first action is looked at, whatever it is. -/
theorem attempt {f : Except Failure α → Act σ β} (hx : Safe I F x) (hok : ∀ a, Safe I G (f (.ok a)))
    (herror : ∀ e, F e → Safe I G (f (.error e))) : Safe I G (Act.attempt x >>= f) := by
  intro s hs
  have hends := hx s hs
  show Ends _ _ (f (x s).1 (x s).2)
  rcases hx' : x s with ⟨e | a, s'⟩ <;> rw [hx'] at hends
  · exact herror e hends.2 s' hends.1
  · exact hok a s' hends

theorem ensuring {last : Act σ Unit} (hx : Safe I F x) (hlast : Safe I F last) :
    Safe I F (x.ensuring last) := by
  refine Ensures.ensuring hx (fun _ => hlast) fun e s hs => ?_
  exact (hlast s hs.1).mono (fun _ _ h => ⟨h, hs.2⟩) fun _ _ h => h

/-- What is made of the world may rely on what holds. -/
theorem world {f : World → Act σ β} (h : ∀ s, I s → Safe I F (f s.world)) :
    Safe I F (Act.world >>= f) := fun s hs => h s hs s hs

theorem own {f : σ → Act σ β} (h : ∀ s, I s → Safe I F (f s.own)) : Safe I F (Act.own >>= f) :=
  fun s hs => h s hs s hs

theorem modifyOwn {f : σ → σ} (h : ∀ s, I s → I { s with own := f s.own }) :
    Safe I F (Act.modifyOwn f) := h

theorem raise (f? : Option Engine.Fault) (h : ∀ f, f? = some f → F (.ofFault f)) :
    Safe I F (Act.raise f? : Act σ Unit) := by
  cases f? with
  | none => exact .pure ()
  | some f => exact .fail (h f rfl)

end Safe

end SqlConsole.Act

import SqlConsole.World.Stream

/-! What an action brings about, both where it goes well and where it fails. -/
namespace SqlConsole.Act
variable {σ τ α β : Type}

/-- The action ended well in a scene that has `Q`, or it failed in one that has `E`. -/
def Ends (Q : α → Scene σ → Prop) (E : Failure → Scene σ → Prop) :
    Except Failure α × Scene σ → Prop
  | (.ok a, s) => Q a s
  | (.error e, s) => E e s

/-- From every scene that has `P` the action ends well in one that has `Q`, or it fails in one that
has `E`. -/
def Ensures (P : Scene σ → Prop) (x : Act σ α) (Q : α → Scene σ → Prop)
    (E : Failure → Scene σ → Prop) : Prop :=
  ∀ s, P s → Ends Q E (x s)

/-- However the action ends, what held before holds after it. -/
def Keeps (I : Scene σ → Prop) (x : Act σ α) : Prop := Ensures I x (fun _ => I) (fun _ => I)

variable {P P' I : Scene σ → Prop} {x : Act σ α} {Q Q' : α → Scene σ → Prop}
  {E E' : Failure → Scene σ → Prop}

theorem Ends.mono {r : Except Failure α × Scene σ} (h : Ends Q E r)
    (hQ : ∀ a s, Q a s → Q' a s) (hE : ∀ e s, E e s → E' e s) : Ends Q' E' r := by
  rcases r with ⟨_ | a, s⟩
  · exact hE _ _ h
  · exact hQ _ _ h

theorem Ends.any (r : Except Failure α × Scene σ) : Ends (fun _ _ => True) (fun _ _ => True) r := by
  rcases r with ⟨_ | _, _⟩ <;> exact trivial

namespace Ensures

theorem mono (h : Ensures P x Q E) (hP : ∀ s, P' s → P s) (hQ : ∀ a s, Q a s → Q' a s)
    (hE : ∀ e s, E e s → E' e s) : Ensures P' x Q' E' :=
  fun s hs => (h s (hP s hs)).mono hQ hE

theorem pre (h : Ensures P x Q E) (hP : ∀ s, P' s → P s) : Ensures P' x Q E :=
  h.mono hP (fun _ _ h => h) (fun _ _ h => h)

theorem post (h : Ensures P x Q E) (hQ : ∀ a s, Q a s → Q' a s) : Ensures P x Q' E :=
  h.mono (fun _ h => h) hQ (fun _ _ h => h)

/-- What does not depend on the scene can be taken for granted. -/
theorem assume {p : Prop} (h : p → Ensures P x Q E) : Ensures (fun s => p ∧ P s) x Q E :=
  fun s hs => h hs.1 s hs.2

protected theorem pure {a : α} (h : ∀ s, P s → Q a s) : Ensures P (Pure.pure a) Q E := h

theorem fail {e : Failure} (h : ∀ s, P s → E e s) : Ensures P (Act.fail e) Q E := h

theorem bind {f : α → Act σ β} {R : β → Scene σ → Prop} (hx : Ensures P x Q E)
    (hf : ∀ a, Ensures (Q a) (f a) R E) : Ensures P (x >>= f) R E := by
  intro s hs
  have hends := hx s hs
  rw [bind_apply]
  rcases hx' : x s with ⟨e | a, s'⟩ <;> rw [hx'] at hends
  · exact hends
  · exact hf a s' hends

theorem discard {Q : Scene σ → Prop} (hx : Ensures P x (fun _ => Q) E) :
    Ensures P (Functor.discard x) (fun _ => Q) E := hx.bind fun _ _ h => h

theorem forM {Q : Scene σ → Prop} {f : β → Act σ Unit}
    (hf : ∀ b, Ensures Q (f b) (fun _ => Q) E) (l : List β) :
    Ensures Q (l.forM f) (fun _ => Q) E := by
  induction l with
  | nil => exact .pure fun _ h => h
  | cons b l ih => exact (hf b).bind fun _ => ih

theorem attempt {Q : Except Failure α → Scene σ → Prop}
    (hx : Ensures P x (fun a => Q (.ok a)) (fun e => Q (.error e))) :
    Ensures P (Act.attempt x) Q E := by
  intro s hs
  have hends := hx s hs
  simp only [Act.attempt, Ends]
  rcases hx' : x s with ⟨e | a, s'⟩ <;> rw [hx'] at hends <;> exact hends

/-- Whatever comes last also comes after a failure, which stands unless that fails as well. -/
theorem ensuring {last : Act σ Unit} {R : α → Scene σ → Prop} (hx : Ensures P x Q E)
    (hlast : ∀ a, Ensures (Q a) last (fun _ => R a) E')
    (hfail : ∀ e, Ensures (E e) last (fun _ => E' e) E') : Ensures P (x.ensuring last) R E' := by
  intro s hs
  have hends := hx s hs
  rw [Act.ensuring]
  rcases hx' : x s with ⟨e | a, s'⟩ <;> rw [hx'] at hends
  · have hends' := hfail e s' hends
    rcases hlast' : last s' with ⟨e' | _, s''⟩ <;> rw [hlast'] at hends' <;> exact hends'
  · have hends' := hlast a s' hends
    rcases hlast' : last s' with ⟨e' | _, s''⟩ <;> rw [hlast'] at hends' <;> exact hends'

/-- The scene of an inner action has the world of the outer one. -/
theorem within {own : τ} {x : Act τ α}
    (hx : ∀ o, Ensures (fun s => s.own = own ∧ P ⟨s.world, o⟩) x (fun a s => Q a ⟨s.world, o⟩)
      (fun e s => E e ⟨s.world, o⟩)) :
    Ensures P (Act.within own x : Act σ α) Q E := by
  intro s hs
  have hends := hx s.own ⟨s.world, own⟩ ⟨rfl, hs⟩
  simp only [Act.within]
  rcases hx' : x ⟨s.world, own⟩ with ⟨e | a, s'⟩ <;> rw [hx'] at hends <;> exact hends

theorem world {Q : World → Scene σ → Prop} (h : ∀ s, P s → Q s.world s) :
    Ensures P Act.world Q E := h

theorem own {Q : σ → Scene σ → Prop} (h : ∀ s, P s → Q s.own s) : Ensures P Act.own Q E := h

theorem modifyOwn {f : σ → σ} {Q : Unit → Scene σ → Prop}
    (h : ∀ s, P s → Q () ⟨s.world, f s.own⟩) : Ensures P (Act.modifyOwn f) Q E := h

end Ensures

namespace Keeps

protected theorem pure (a : α) : Keeps I (Pure.pure a : Act σ α) := fun _ h => h

theorem fail (e : Failure) : Keeps I (Act.fail e : Act σ α) := fun _ h => h

theorem bind {f : α → Act σ β} (hx : Keeps I x) (hf : ∀ a, Keeps I (f a)) : Keeps I (x >>= f) :=
  Ensures.bind hx hf

theorem forM {f : β → Act σ Unit} (hf : ∀ b, Keeps I (f b)) (l : List β) : Keeps I (l.forM f) :=
  Ensures.forM hf l

theorem raise (f? : Option Engine.Fault) : Keeps I (Act.raise f? : Act σ Unit) := by
  cases f? with
  | none => exact .pure ()
  | some f => exact .fail _

end Keeps

theorem Ensures.apply_ok (h : Ensures P x Q E) {s s' : Scene σ} {a : α} (hs : P s)
    (hx : x s = (.ok a, s')) : Q a s' := by
  have hends := h s hs
  rwa [hx] at hends

theorem Ensures.apply_error (h : Ensures P x Q E) {s s' : Scene σ} {e : Failure} (hs : P s)
    (hx : x s = (.error e, s')) : E e s' := by
  have hends := h s hs
  rwa [hx] at hends

/-- What an action keeps holds in the scene that it leads to. -/
theorem Keeps.apply (h : Keeps I x) {s s' : Scene σ} {r : Except Failure α} (hs : I s)
    (hx : x s = (r, s')) : I s' := by
  cases r with
  | error e => exact Ensures.apply_error h hs hx
  | ok a => exact Ensures.apply_ok h hs hx

end SqlConsole.Act

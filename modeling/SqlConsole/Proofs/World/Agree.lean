import SqlConsole.Proofs.World.Sinks

/-! Two actions done from scenes that have to do with each other: they end alike, and the scenes after
them have to do with each other again. -/
namespace SqlConsole

/-- `W` relates the worlds of the scenes, and `O` what is kept beside them. -/
structure Scene.Related {σ τ : Type} (W : World → World → Prop) (O : σ → τ → Prop) (s : Scene σ)
    (t : Scene τ) : Prop where
  world : W s.world t.world
  own : O s.own t.own

namespace Act
variable {σ τ ρ α β : Type}

/-- From scenes that `R` relates the actions end alike, in scenes that it relates. -/
def Agrees (R : Scene σ → Scene τ → Prop) (x : Act σ α) (y : Act τ α) : Prop :=
  ∀ s t, R s t → (x s).1 = (y t).1 ∧ R (x s).2 (y t).2

namespace Agrees
variable {R : Scene σ → Scene τ → Prop} {x : Act σ α} {y : Act τ α} {f : α → Act σ β} {g : α → Act τ β}

/-- Where the one ends, the other ends alike. -/
theorem ends {s s' : Scene σ} {t : Scene τ} {ending : Except Failure α} (hxy : Agrees R x y) (h : R s t)
    (hx : x s = (ending, s')) : ∃ t', y t = (ending, t') ∧ R s' t' := by
  obtain ⟨hend, hscenes⟩ := hxy s t h
  rw [hx] at hend hscenes
  exact ⟨(y t).2, Prod.ext hend.symm rfl, hscenes⟩

protected theorem pure (a : α) : Agrees R (Pure.pure a) (Pure.pure a) := fun _ _ h => ⟨rfl, h⟩

theorem fail (e : Failure) : Agrees R (Act.fail e : Act σ α) (Act.fail e : Act τ α) := fun _ _ h => ⟨rfl, h⟩

theorem bind (hxy : Agrees R x y) (hfg : ∀ a, Agrees R (f a) (g a)) :
    Agrees R (x >>= f) (y >>= g) := by
  intro s t h
  obtain ⟨hend, hscenes⟩ := hxy s t h
  rw [bind_apply, bind_apply]
  rcases hx : x s with ⟨e | a, s'⟩ <;> rcases hy : y t with ⟨e' | a', t'⟩ <;>
    rw [hx, hy] at hend hscenes
  · cases hend
    exact ⟨rfl, hscenes⟩
  · cases hend
  · cases hend
  · cases hend
    exact hfg a s' t' hscenes

/-- An action in front that only one side does. -/
theorem before {x : Act σ Unit} {f : Unit → Act σ β} {z : Act τ β} (hx : Agrees R x (Pure.pure ()))
    (hf : Agrees R (f ()) z) : Agrees R (x >>= f) z := by
  have hbind := hx.bind (g := fun _ => z) fun _ => hf
  rwa [pure_bind] at hbind

theorem raise (f? : Option Engine.Fault) : Agrees R (Act.raise f?) (Act.raise f?) := by
  cases f? with
  | none => exact .pure ()
  | some f => exact .fail _

theorem forM {f : β → Act σ Unit} {g : β → Act τ Unit} {l : List β}
    (h : ∀ b ∈ l, Agrees R (f b) (g b)) : Agrees R (l.forM f) (l.forM g) := by
  induction l with
  | nil => exact .pure ()
  | cons b l ih =>
    obtain ⟨hb, hl⟩ := List.forall_mem_cons.1 h
    exact hb.bind fun _ => ih hl

theorem attempt (h : Agrees R x y) : Agrees R (Act.attempt x) (Act.attempt y) := by
  intro s t hst
  obtain ⟨hend, hscenes⟩ := h s t hst
  exact ⟨congrArg Except.ok hend, hscenes⟩

theorem ensuring {u : Act σ Unit} {v : Act τ Unit} (h : Agrees R x y) (hlast : Agrees R u v) :
    Agrees R (x.ensuring u) (y.ensuring v) := by
  intro s t hst
  obtain ⟨hend, hscenes⟩ := h s t hst
  obtain ⟨hend', hscenes'⟩ := hlast _ _ hscenes
  simp only [Act.ensuring]
  rcases hu : u (x s).2 with ⟨e | _, s'⟩ <;> rcases hv : v (y t).2 with ⟨e' | _, t'⟩ <;>
    rw [hu, hv] at hend' hscenes'
  · cases hend'
    exact ⟨rfl, hscenes'⟩
  · cases hend'
  · cases hend'
  · exact ⟨hend, hscenes'⟩

/-- What is made of the worlds may go by what `R` says of them. -/
theorem world {f : World → Act σ β} {g : World → Act τ β}
    (h : ∀ s t, R s t → Agrees R (f s.world) (g t.world)) :
    Agrees R (Act.world >>= f) (Act.world >>= g) := fun s t hst => h s t hst s t hst

/-- Only one side looks at the world. -/
theorem world_before {f : World → Act σ β} {z : Act τ β} (h : ∀ w, Agrees R (f w) z) :
    Agrees R (Act.world >>= f) z := fun s t hst => h s.world s t hst

/-- What is made of what is kept may be the same on both sides. -/
theorem own {R : Scene σ → Scene σ → Prop} {f : σ → Act σ β} (hsame : ∀ s t, R s t → f t.own = f s.own)
    (h : ∀ o, Agrees R (f o) (f o)) : Agrees R (Act.own >>= f) (Act.own >>= f) := by
  intro s t hst
  have hown := h s.own s t hst
  rwa [← congrFun (hsame s t hst) t] at hown

theorem modifyWorld {f g : World → World}
    (h : ∀ s t, R s t → R { s with world := f s.world } { t with world := g t.world }) :
    Agrees R (Act.modifyWorld f) (Act.modifyWorld g) := fun s t hst => ⟨rfl, h s t hst⟩

end Agrees

/-- Does an action that knows nothing of a further part of what is kept. -/
def beside (x : Act σ α) : Act (σ × ρ) α := fun s =>
  let r := x ⟨s.world, s.own.1⟩
  (r.1, ⟨r.2.world, (r.2.own, s.own.2)⟩)

namespace Agrees
open Scene (Related)
variable {W : World → World → Prop} {x : Act σ α} {y : Act τ α}

theorem beside (h : Agrees (Related W fun _ _ => True) x y) :
    Agrees (Related W fun (p : σ × ρ) (q : τ × ρ) => p.2 = q.2) x.beside y.beside := by
  intro s t hst
  obtain ⟨hend, hscenes⟩ := h ⟨s.world, s.own.1⟩ ⟨t.world, t.own.1⟩ ⟨hst.world, trivial⟩
  exact ⟨hend, hscenes.world, hst.own⟩

/-- The further part does not matter. -/
theorem beside_left (x : Act σ α) :
    Agrees (Related Eq fun (p : σ × ρ) o => p.1 = o) x.beside x := by
  rintro ⟨w, o, r⟩ ⟨_, _⟩ ⟨rfl, rfl⟩
  exact ⟨rfl, rfl, rfl⟩

end Agrees

section SameWorld
open Scene (Related)
variable {O : σ → τ → Prop}

/-! Text is written in the same way whatever is kept beside the world. -/

theorem Agrees.same_world {f : World → Act σ α} {g : World → Act τ α}
    (h : ∀ w, Agrees (Related Eq O) (f w) (g w)) :
    Agrees (Related Eq O) (Act.world >>= f) (Act.world >>= g) :=
  .world fun _ t hst => hst.world ▸ h t.world

theorem Agrees.same_change (f : World → World) :
    Agrees (Related Eq O) (Act.modifyWorld f : Act σ Unit) (Act.modifyWorld f) :=
  .modifyWorld fun _ _ hst => ⟨congrArg f hst.world, hst.own⟩

theorem Agrees.same_flush (k : Sink) :
    Agrees (Related Eq O) (Act.flush k : Act σ Unit) (Act.flush k) := by
  cases k with
  | stdout => exact .pure ()
  | stderr => exact .pure ()
  | opened id name =>
    refine .same_world fun w => ?_
    cases w.handle? id with
    | none => exact .fail _
    | some h =>
      dsimp only
      split
      · refine .same_world fun w => (Agrees.same_change _).bind fun _ => ?_
        split
        · exact .fail _
        · exact .pure ()
      · exact .pure ()

theorem Agrees.same_write (k : Sink) (text : List Char) :
    Agrees (Related Eq O) (Act.write k text : Act σ Unit) (Act.write k text) := by
  cases k with
  | stdout => exact .same_change _
  | stderr => exact .same_change _
  | opened id name =>
    refine .same_world fun w => ?_
    cases w.handle? id with
    | none => exact .fail _
    | some h =>
      refine (Agrees.same_change _).bind fun _ => (Agrees.same_change _).bind fun _ => ?_
      split
      · exact .same_flush _
      · exact .pure ()

end SameWorld
end Act
end SqlConsole

import SqlConsole.Proofs.World.Sinks

/-! Actions that the engine takes no notice of: they give it no text, and they do not turn the
counting of statements on or off. -/
namespace SqlConsole

/-- The text that a deed gives to the engine to run, if it does. -/
def Deed.given? : Deed → Option String
  | .engine (.execute sql _) => some sql
  | _ => none

namespace World

/-- The texts that the engine was given to run, the first one first. -/
def given (w : World) : List String := (w.past.filterMap Deed.given?).reverse

/-- What the engine has of a world: the texts it was given, and whether it counts. -/
def stance (w : World) : List String × Bool := (w.given, w.counting.isSome)

theorem given_note (w : World) (d : Deed) :
    ({ w with past := d :: w.past } : World).given = w.given ++ d.given?.toList := by
  cases h : d.given? <;> simp [given, h]

theorem stance_note (w : World) {d : Deed} (hd : d.given? = none) :
    ({ w with past := d :: w.past } : World).stance = w.stance := by
  simp [stance, given_note, hd]

end World

namespace Act
variable {σ τ α β : Type} {x : Act σ α} {s s' : Scene σ}

theorem bind_ok {a : α} (h : x s = (.ok a, s')) (f : α → Act σ β) : (x >>= f) s = f a s' := by
  rw [bind_apply, h]

theorem bind_error {e : Failure} (h : x s = (.error e, s')) (f : α → Act σ β) :
    (x >>= f) s = (.error e, s') := by
  rw [bind_apply, h]

theorem ensuring_ok {last : Act σ Unit} {r : Except Failure α} {t : Scene σ} (hx : x s = (r, s'))
    (hlast : last s' = (.ok (), t)) : x.ensuring last s = (r, t) := by
  rw [Act.ensuring, hx, hlast]

theorem ensuring_snd (x : Act σ α) (last : Act σ Unit) (s : Scene σ) :
    (x.ensuring last s).2 = (last (x s).2).2 := by
  rw [Act.ensuring]
  rcases last (x s).2 with ⟨_ | _, _⟩ <;> rfl

theorem ensuring_error {last : Act σ Unit} {f : Failure} (h : (x.ensuring last s).1 = .error f) :
    (x s).1 = .error f ∨ (last (x s).2).1 = .error f := by
  unfold Act.ensuring at h
  split at h
  · exact .inl h
  · rename_i hlast
    cases h
    exact .inr (congrArg Prod.fst hlast)

/-- However the action ends, the engine has not noticed it. -/
def Discreet (x : Act σ α) : Prop := ∀ s, (x s).2.world.stance = s.world.stance

namespace Discreet

theorem stance_eq (hx : Discreet x) {r : Except Failure α} (h : x s = (r, s')) :
    s'.world.stance = s.world.stance := by
  have := hx s
  rwa [h] at this

protected theorem pure (a : α) : Discreet (Pure.pure a : Act σ α) := fun _ => rfl

theorem fail (e : Failure) : Discreet (Act.fail e : Act σ α) := fun _ => rfl

theorem world : Discreet (Act.world : Act σ World) := fun _ => rfl

theorem own : Discreet (Act.own : Act σ σ) := fun _ => rfl

theorem modifyOwn (f : σ → σ) : Discreet (Act.modifyOwn f) := fun _ => rfl

theorem modifyWorld {f : World → World} (hf : ∀ w, (f w).stance = w.stance) :
    Discreet (Act.modifyWorld f : Act σ Unit) := fun s => hf s.world

theorem note {d : Deed} (hd : d.given? = none) : Discreet (Act.note d : Act σ Unit) :=
  modifyWorld fun w => w.stance_note hd

theorem bind {f : α → Act σ β} (hx : Discreet x) (hf : ∀ a, Discreet (f a)) :
    Discreet (x >>= f) := by
  intro s
  rw [bind_apply]
  rcases hx' : x s with ⟨_ | a, s'⟩
  · exact hx.stance_eq hx'
  · exact (hf a s').trans (hx.stance_eq hx')

/-- Where what follows goes unnoticed, the engine has noticed the first action alone. -/
theorem stance_bind {f : α → Act σ β} (hf : ∀ a, Discreet (f a)) (x : Act σ α) (s : Scene σ) :
    ((x >>= f) s).2.world.stance = (x s).2.world.stance := by
  rw [bind_apply]
  rcases x s with ⟨_ | a, s'⟩
  · rfl
  · exact hf a s'

theorem raise (f? : Option Engine.Fault) : Discreet (Act.raise f? : Act σ Unit) := by
  cases f? with
  | none => exact .pure ()
  | some f => exact .fail _

theorem forM {f : β → Act σ Unit} (hf : ∀ b, Discreet (f b)) (l : List β) :
    Discreet (l.forM f) := by
  induction l with
  | nil => exact .pure ()
  | cons b l ih => exact (hf b).bind fun _ => ih

theorem flush (k : Sink) : Discreet (Act.flush k : Act σ Unit) := by
  cases k with
  | stdout => exact .pure ()
  | stderr => exact .pure ()
  | opened id name =>
    refine world.bind fun w => ?_
    cases w.handle? id with
    | none => exact .fail _
    | some h =>
      dsimp only
      split
      · refine world.bind fun w => .bind (.modifyWorld fun _ => rfl) fun _ => ?_
        split
        · exact .fail _
        · exact .pure ()
      · exact .pure ()

theorem write (k : Sink) (text : List Char) : Discreet (Act.write k text : Act σ Unit) := by
  cases k with
  | stdout => exact note rfl
  | stderr => exact note rfl
  | opened id name =>
    refine world.bind fun w => ?_
    cases w.handle? id with
    | none => exact .fail _
    | some h =>
      refine .bind (.modifyWorld fun _ => rfl) fun _ => .bind (.note rfl) fun _ => ?_
      split
      · exact flush _
      · exact .pure ()

end Discreet

/-- The action fails in no other way than by a sink. -/
def FailsBySink (x : Act σ α) : Prop := ∀ s e, (x s).1 = .error e → e.IsOfSink

namespace FailsBySink

protected theorem pure (a : α) : FailsBySink (Pure.pure a : Act σ α) := fun _ _ h => by cases h

theorem world : FailsBySink (Act.world : Act σ World) := fun _ _ h => by cases h

theorem modifyWorld (f : World → World) : FailsBySink (Act.modifyWorld f : Act σ Unit) :=
  fun _ _ h => by cases h

theorem bind {f : α → Act σ β} (hx : FailsBySink x) (hf : ∀ a, FailsBySink (f a)) :
    FailsBySink (x >>= f) := by
  intro s e h
  rw [bind_apply] at h
  rcases hx' : x s with ⟨e' | a, s'⟩
  · rw [hx'] at h
    cases h
    exact hx s e (by rw [hx'])
  · rw [hx'] at h
    exact hf a s' e h

theorem forM {f : β → Act σ Unit} (hf : ∀ b, FailsBySink (f b)) (l : List β) :
    FailsBySink (l.forM f) := by
  induction l with
  | nil => exact .pure ()
  | cons b l ih => exact (hf b).bind fun _ => ih

theorem flush (k : Sink) : FailsBySink (Act.flush k : Act σ Unit) := by
  intro s e h
  obtain ⟨r, w, heq, -, -, hr⟩ := flush_cases k s
  rw [heq] at h
  obtain rfl | ⟨fault, rfl, -⟩ := hr
  · cases h
  · cases h
    exact ⟨k, fault, rfl⟩

theorem write (k : Sink) (text : List Char) : FailsBySink (Act.write k text : Act σ Unit) := by
  intro s e h
  obtain ⟨r, w, heq, -, ⟨rfl, -⟩ | ⟨fault, rfl, -⟩⟩ := write_cases k text s
  · rw [heq] at h
    cases h
  · rw [heq] at h
    cases h
    exact ⟨k, fault, rfl⟩

end FailsBySink
end Act
end SqlConsole

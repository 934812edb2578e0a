import SqlConsole.Proofs.World.Discreet
import SqlConsole.Proofs.World.Oblivious

/-! Actions of which the user is told when they come to a bad end. -/
namespace SqlConsole

/-- The text tells of an error. -/
def TellsError (text : String) : Prop := ∃ rest, text = "Error:" ++ rest

theorem TellsError.append {text : String} (h : TellsError text) (more : String) :
    TellsError (text ++ more) := by
  obtain ⟨rest, rfl⟩ := h
  exact ⟨rest ++ more, String.append_assoc ..⟩

/-- From one world to the other the user was told of an error. -/
def World.Reports (w w' : World) : Prop :=
  ∃ told text, w'.past = told ++ w.past ∧ Deed.wrote .stderr text ∈ told ∧ TellsError text

namespace World.Reports
variable {w w₁ w' : World}

theorem after (h : Reports w₁ w') (hpast : w.past <:+ w₁.past) : Reports w w' := by
  obtain ⟨told, text, heq, hmem, htext⟩ := h
  obtain ⟨before, hbefore⟩ := hpast
  refine ⟨told ++ before, text, ?_, List.mem_append_left _ hmem, htext⟩
  rw [List.append_assoc, hbefore, heq]

theorem before (h : Reports w w₁) (hpast : w₁.past <:+ w'.past) : Reports w w' := by
  obtain ⟨told, text, heq, hmem, htext⟩ := h
  obtain ⟨after, hafter⟩ := hpast
  refine ⟨after ++ told, text, ?_, List.mem_append_right _ hmem, htext⟩
  rw [List.append_assoc, ← heq, hafter]

end World.Reports

namespace Act
variable {σ τ α β : Type}

/-- Where the action ends with a bad result, the user has been told of an error. -/
def Tells (bad : α → Prop) (x : Act σ α) : Prop :=
  ∀ s s' a, x s = (.ok a, s') → bad a → s.world.Reports s'.world

namespace Tells
variable {bad : α → Prop} {bad' : β → Prop} {x : Act σ α} {f : α → Act σ β}

protected theorem pure {a : α} (h : ¬ bad a) : Tells bad (Pure.pure a : Act σ α) := by
  intro s s' a' heq ha
  cases heq
  exact absurd ha h

theorem fail (e : Failure) : Tells bad (Act.fail e : Act σ α) := by
  intro s s' a heq
  cases heq

/-- A bad result of the first action has been told already, whatever is done then. -/
theorem bind (hx : Tells bad x) (hgrows : Oblivious x) (hf : ∀ a, bad a → Oblivious (f a))
    (hgood : ∀ a, ¬ bad a → Tells bad' (f a)) : Tells bad' (x >>= f) := by
  intro s s' b heq hb
  rcases hfirst : x s with ⟨e | a, s₁⟩
  · rw [bind_error hfirst] at heq
    cases heq
  · have hs := hgrows.suffix s
    rw [bind_ok hfirst] at heq
    rw [hfirst] at hs
    by_cases ha : bad a
    · have hs' := (hf a ha).suffix s₁
      rw [heq] at hs'
      exact (hx s s₁ a hfirst ha).before hs'
    · exact (hgood a ha s₁ s' b heq hb).after hs

/-- Nothing that comes first is bad. -/
theorem bind_any (hgrows : Oblivious x) (hf : ∀ a, Tells bad' (f a)) : Tells bad' (x >>= f) := by
  have hgood : Tells (fun _ => False) x := fun _ _ _ _ h => h.elim
  exact hgood.bind hgrows (fun _ h => h.elim) fun a _ => hf a

theorem attempt (hx : Tells bad x) : Tells (fun ending => ∃ a, ending = .ok a ∧ bad a) (Act.attempt x) := by
  intro s s' ending heq hbad
  obtain ⟨a, rfl, ha⟩ := hbad
  obtain ⟨hend, hscene⟩ := Prod.mk.inj (show (_, _) = _ from heq)
  exact hx s s' a (Prod.ext (Except.ok.inj hend) hscene) ha

theorem ensuring {last : Act σ Unit} (hx : Tells bad x) (hlast : Oblivious last) :
    Tells bad (x.ensuring last) := by
  intro s s' a heq ha
  have hs := hlast.suffix (x s).2
  unfold Act.ensuring at heq
  rcases hend : last (x s).2 with ⟨e | _, s₁⟩ <;> rw [hend] at heq hs
  · cases heq
  · obtain ⟨hfirst, rfl⟩ := Prod.mk.inj heq
    exact (hx s _ a (Prod.ext hfirst rfl) ha).before hs

theorem within {own : τ} {x : Act τ α} (hx : Tells bad x) :
    Tells bad (Act.within own x : Act σ α) := by
  intro s s' a heq ha
  obtain ⟨hend, rfl⟩ := Prod.mk.inj (show (_, _) = _ from heq)
  exact hx ⟨s.world, own⟩ _ a (Prod.ext hend rfl) ha

theorem write {text : String} (h : TellsError text) :
    Tells (fun _ => True) (Act.write .stderr text.toList : Act σ Unit) := by
  intro s s' a heq _
  cases heq
  refine ⟨[.wrote .stderr text], text, ?_, List.mem_singleton_self _, h⟩
  show [Deed.wrote .stderr (String.ofList text.toList)] ++ s.world.past = _
  rw [String.ofList_toList]

/-- The user is told first of all. -/
theorem told {text : String} (h : TellsError text) (a : α) :
    Tells bad (do
      Act.write .stderr text.toList
      pure a : Act σ α) :=
  bind (write h) (.write _ _) (fun _ _ => .pure a) fun _ h => absurd trivial h

end Tells
end Act

end SqlConsole

import SqlConsole.World.Basic
import SqlConsole.World.Failure

/-! Actions on the world. An action can fail; what it did before stays done. -/
namespace SqlConsole

/-- The world, and what an action keeps for itself. -/
structure Scene (σ : Type) where
  world : World
  own : σ

def Act (σ α : Type) : Type := Scene σ → Except Failure α × Scene σ

namespace Act

variable {σ τ α β : Type}

instance : Monad (Act σ) where
  pure a := fun s => (.ok a, s)
  bind x f := fun s =>
    match x s with
    | (.ok a, s') => f a s'
    | (.error e, s') => (.error e, s')

theorem pure_apply (a : α) (s : Scene σ) : (pure a : Act σ α) s = (.ok a, s) := rfl

theorem bind_apply (x : Act σ α) (f : α → Act σ β) (s : Scene σ) :
    (x >>= f) s = match x s with
      | (.ok a, s') => f a s'
      | (.error e, s') => (.error e, s') := rfl

instance : LawfulMonad (Act σ) :=
  LawfulMonad.mk' (Act σ)
    (fun x => funext fun s => by
      show (x >>= fun a => pure a) s = x s
      rw [bind_apply]; rcases x s with ⟨_ | _, _⟩ <;> rfl)
    (fun _ _ => rfl)
    (fun x f g => funext fun s => by
      simp only [bind_apply]; rcases x s with ⟨_ | _, _⟩ <;> rfl)

def fail (e : Failure) : Act σ α := fun s => (.error e, s)

def complain (c : Complaint) : Act σ α := fail (.complaint c)

/-- Does an action and gives its end, whatever that is. -/
def attempt (x : Act σ α) : Act σ (Except Failure α) := fun s => (.ok (x s).1, (x s).2)

/-- Does `last` after `x`, even if that failed. If `last` fails too its failure stands. -/
def ensuring (x : Act σ α) (last : Act σ Unit) : Act σ α := fun s =>
  match last (x s).2 with
  | (.ok _, s') => ((x s).1, s')
  | (.error e, s') => (.error e, s')

/-- Does an action that has state of its own, which starts as `own` and is dropped at the end. -/
def within (own : τ) (x : Act τ α) : Act σ α := fun s =>
  let r := x ⟨s.world, own⟩
  (r.1, ⟨r.2.world, s.own⟩)

def own : Act σ σ := fun s => (.ok s.own, s)

def modifyOwn (f : σ → σ) : Act σ Unit := fun s => (.ok (), { s with own := f s.own })

def world : Act σ World := fun s => (.ok s.world, s)

def modifyWorld (f : World → World) : Act σ Unit := fun s =>
  (.ok (), { s with world := f s.world })

@[simp] theorem within_own (own : τ) (x : Act τ α) (s : Scene σ) :
    (within own x s).2.own = s.own := rfl

def raise : Option Engine.Fault → Act σ Unit
  | none => pure ()
  | some f => fail (.ofFault f)

def note (d : Deed) : Act σ Unit := modifyWorld fun w => { w with past := d :: w.past }

def event (e : Engine.Event) : Act σ Unit := note (.engine e)

end Act

end SqlConsole

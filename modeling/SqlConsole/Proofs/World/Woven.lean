import SqlConsole.Proofs.World.Custody
import SqlConsole.Proofs.World.Steady

/-! What the engine has said that it began, and a past into which it has been written down to a sink. -/
namespace SqlConsole

namespace Deed

/-- The text that the engine says it has begun. -/
def announced? : Deed → Option String
  | began sql => some sql
  | _ => none

/-- What is done where each text that begins is written to the sink, the latest first. -/
def writtenDown (k : Sink) : Deed → List Deed
  | began sql => [wrote k (sql ++ "\n"), began sql]
  | d => [d]

end Deed

/-- A past where each text that began was then written to the sink. -/
def woven (k : Sink) (done : List Deed) : List Deed := done.flatMap (Deed.writtenDown k)

namespace World

/-- The texts that the engine has said it began, the first one first. -/
def announced (w : World) : List String := (w.past.filterMap Deed.announced?).reverse

end World

variable {k : Sink} {done p : List Deed} {w w' : World} {σ α : Type}

theorem woven_began (sql : String) :
    woven k (.began sql :: done) = .wrote k (sql ++ "\n") :: .began sql :: woven k done := rfl

theorem woven_plain {K : Option Nat → Prop} {d : Deed} (hd : d.Plain K) :
    woven k (d :: done) = d :: woven k done := by
  cases d with
  | began sql => exact hd.elim
  | _ => rfl

theorem announced_woven : (woven k done).filterMap Deed.announced? = done.filterMap Deed.announced? := by
  induction done with
  | nil => rfl
  | cons d done ih => cases d <;>
    simpa [woven, Deed.writtenDown, Deed.announced?, List.filterMap_cons] using ih

theorem announced_of_woven (h : w'.past = woven k done ++ w.past) :
    w'.announced = w.announced ++ (done.filterMap Deed.announced?).reverse := by
  rw [World.announced, World.announced, h, List.filterMap_append, List.reverse_append, announced_woven]

/-- Where nothing else is written to the sink, it gets the texts that begin. -/
theorem written_of_woven (h : w'.past = woven k done ++ w.past) (hdone : ∀ d ∈ done, d.textTo? k = none) :
    w'.written k = w.written k ++ (done.filterMap Deed.announced?).reverse.map (· ++ "\n") := by
  have htexts : (woven k done).filterMap (Deed.textTo? k) =
      (done.filterMap Deed.announced?).map (· ++ "\n") := by
    clear h
    induction done with
    | nil => rfl
    | cons d done ih =>
      obtain ⟨hd, hrest⟩ := List.forall_mem_cons.1 hdone
      have hbefore := ih hrest
      cases d with
      | began sql =>
        simpa [woven, Deed.writtenDown, Deed.announced?, Deed.textTo?, List.filterMap_cons] using hbefore
      | wrote k' text =>
        simpa [woven, Deed.writtenDown, Deed.announced?, hd, List.filterMap_cons] using hbefore
      | _ => simpa [woven, Deed.writtenDown, Deed.announced?, Deed.textTo?, List.filterMap_cons] using hbefore
  rw [World.written, World.written, h, List.filterMap_append, List.reverse_append, htexts, List.map_reverse]

/-! What is done with one sink. -/

namespace World

theorem concerning_of_past {d : Deed} (h : w'.past = d :: w.past) (k : Sink) :
    w'.concerning k = w.concerning k ++ if d.sink? = some k then [d] else [] := by
  by_cases hd : d.sink? = some k <;> simp [concerning, h, hd]

/-- The texts that a sink has got are among what was done with it. -/
theorem written_eq (w : World) (k : Sink) : w.written k = (w.concerning k).filterMap (Deed.textTo? k) := by
  rw [concerning, List.filterMap_reverse, List.filterMap_filter, written]
  refine congrArg _ (List.filterMap_congr fun d _ => ?_)
  cases d with
  | wrote k' text => by_cases hk : k' = k <;> simp [Deed.textTo?, Deed.sink?, hk]
  | _ => simp [Deed.textTo?]

end World

namespace Act
variable {deeds : List Deed} {j : Sink}

theorem keeps_note {d : Deed} (hd : d.sink? ≠ some k) :
    Keeps (fun s : Scene σ => s.world.concerning k = deeds) (Act.note d) := by
  intro s hs
  show World.concerning _ k = deeds
  rw [World.concerning_of_past (w := s.world) (d := d) rfl k, if_neg hd, List.append_nil, hs]

theorem keeps_close (hj : j ≠ k) :
    Keeps (fun s : Scene σ => s.world.concerning k = deeds) (Act.close j) := by
  cases j with
  | opened id name =>
    refine .bind (Ensures.world fun _ hs => hs) fun w => ?_
    cases w.handle? id with
    | none => exact .pure ()
    | some h =>
      refine .bind (Ensures.world fun _ hs => hs) fun w => .bind (fun _ hs => hs) fun _ =>
        .bind (keeps_note (mt Option.some.inj hj)) fun _ => ?_
      split
      · exact .fail _
      · exact .pure ()
  | _ => exact .pure ()

theorem keeps_option_close {k? : Option Sink} (hk : ∀ j ∈ k?, j ≠ k) :
    Keeps (fun s : Scene σ => s.world.concerning k = deeds) (k?.forM Act.close) := by
  cases k? with
  | none => exact .pure ()
  | some j => exact keeps_close (hk j rfl)

/-- The sink is closed where it is open, whatever becomes of what it held. -/
theorem ensures_close (hk : k.isStream = false) :
    Ensures (fun s : Scene σ => s.world.IsOpen k ∧ s.world.concerning k = deeds) (Act.close k)
      (fun _ s => s.world.concerning k = deeds ++ [.closed k])
      (fun _ s => s.world.concerning k = deeds ++ [.closed k]) := by
  rintro s ⟨hopen, rfl⟩
  cases k with
  | opened id name =>
    obtain ⟨r, w, hclose, -, -, -, -, hpast, -⟩ := close_of_isOpen hopen
    have hconcerning : w.concerning (.opened id name) = s.world.concerning (.opened id name) ++
        [.closed (.opened id name)] :=
      (World.concerning_of_past hpast _).trans (congrArg _ (if_pos rfl))
    rw [hclose]
    cases r <;> exact hconcerning
  | _ => cases hk

end Act
end SqlConsole

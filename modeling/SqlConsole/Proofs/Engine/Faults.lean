import SqlConsole.Proofs.Engine.Replies
import SqlConsole.Proofs.World.Sinks

/-! The faults that are in the script of an engine. Answers use them up; none is ever added. -/
namespace SqlConsole

namespace Engine

def StepAnswer.fault? : StepAnswer → Option Fault
  | fault f => some f
  | _ => none

def BackupAnswer.faults : BackupAnswer → List Fault
  | refused f => [f]
  | steps answers => answers.filterMap (·.fault?)

namespace Script
variable (s : Script) (sql : String)

/-- All the faults that the engine may ever report. -/
def faults : List Fault :=
  s.answers.filterMap (·.fault) ++
    (s.openFaults.map (·.2) ++
      (s.backups.flatMap (·.faults) ++ (s.enableLoadFault.toList ++ s.loadFault.toList)))

theorem mem_answers (h : (s.answer sql).1.fault ≠ none) : (s.answer sql).1 ∈ s.answers := by
  have hmem (a : Answer) (ha : a ∈ s.answers.filter (·.sql == sql)) : a ∈ s.answers :=
    (List.mem_filter.1 ha).1
  unfold answer at h ⊢
  split at h <;> rename_i heq
  · exact absurd rfl h
  · exact hmem _ (by rw [heq]; exact List.mem_cons_self)
  · exact hmem _ (by rw [heq]; exact List.mem_cons_self)

theorem mem_faults_answer {f : Fault} (h : (s.answer sql).1.fault = some f) : f ∈ s.faults := by
  have hmem := s.mem_answers sql (by rw [h]; nofun)
  exact List.mem_append_left _ (List.mem_filterMap.2 ⟨_, hmem, h⟩)

/-- What is left of a script when some of its answers have been used up. -/
structure Leaves (s s' : Script) : Prop where
  answers : s'.answers ⊆ s.answers
  openFaults : s'.openFaults = s.openFaults
  backups : s'.backups ⊆ s.backups
  enableLoadFault : s'.enableLoadFault = s.enableLoadFault
  loadFault : s'.loadFault = s.loadFault

namespace Leaves
variable {s s' s'' : Script}

protected theorem refl (s : Script) : Leaves s s :=
  ⟨List.Subset.refl _, rfl, List.Subset.refl _, rfl, rfl⟩

theorem trans (h : Leaves s s') (h' : Leaves s' s'') : Leaves s s'' where
  answers := List.Subset.trans h'.answers h.answers
  openFaults := h'.openFaults.trans h.openFaults
  backups := List.Subset.trans h'.backups h.backups
  enableLoadFault := h'.enableLoadFault.trans h.enableLoadFault
  loadFault := h'.loadFault.trans h.loadFault

theorem answered (s : Script) (sql : String) : Leaves s (s.answer sql).2 := by
  unfold answer
  split
  · exact .refl s
  · exact .refl s
  · exact { Leaves.refl s with answers := dropAnswer_subset sql s.answers }

theorem backedUp (s : Script) : Leaves s s.backup.2 := by
  unfold backup
  split
  · exact .refl s
  · rename_i b r h
    exact { Leaves.refl s with backups := h ▸ List.subset_cons_self b r }

theorem openFault?_eq (h : Leaves s s') (file : String) : s'.openFault? file = s.openFault? file := by
  rw [openFault?, h.openFaults, openFault?]

theorem isFull (h : Leaves s s') (hs : s.IsFull) : s'.IsFull := fun a ha => hs a (h.answers ha)

theorem faults (h : Leaves s s') : s'.faults ⊆ s.faults := by
  intro f
  simp only [Script.faults, List.mem_append, List.mem_filterMap, List.mem_flatMap, h.openFaults,
    h.enableLoadFault, h.loadFault]
  rintro (⟨a, ha, hf⟩ | hrest | ⟨b, hb, hf⟩ | hrest)
  · exact .inl ⟨a, h.answers ha, hf⟩
  · exact .inr (.inl hrest)
  · exact .inr (.inr (.inl ⟨b, h.backups hb, hf⟩))
  · exact .inr (.inr (.inr hrest))

end Leaves

theorem mem_faults_of_open {file : String} {f : Fault} (h : s.openFault? file = some f) :
    f ∈ s.faults := by
  have hmem : (file, f) ∈ s.openFaults := by
    obtain ⟨l₁, l₂, heq, -⟩ := List.lookup_eq_some_iff.1 h
    rw [heq]
    exact List.mem_append_right _ List.mem_cons_self
  exact List.mem_append_right _ (List.mem_append_left _ (List.mem_map.2 ⟨_, hmem, rfl⟩))

theorem mem_faults_of_backup {b : BackupAnswer} {f : Fault} (hb : b ∈ s.backups)
    (hf : f ∈ b.faults) : f ∈ s.faults := by
  simp only [faults, List.mem_append, List.mem_flatMap]
  exact .inr (.inr (.inl ⟨b, hb, hf⟩))

theorem mem_faults_of_load {f : Fault} (h : s.enableLoadFault = some f ∨ s.loadFault = some f) :
    f ∈ s.faults := by
  rcases h with h | h <;> simp [faults, h]

end Script
end Engine

/-- Someone deals with the failure: the user is told, or it is the user who has stopped what is going on,
as the script says. -/
def Failure.IsHandled (script : Engine.Script) (f : Failure) : Prop :=
  f.message?.isSome ∨ f = .interrupted ∧ .interrupted ∈ script.faults

theorem Failure.isHandled_ofFault {script : Engine.Script} {f : Engine.Fault} (h : f ∈ script.faults) :
    (Failure.ofFault f).IsHandled script := by
  cases f with
  | error e => exact .inl rfl
  | interrupted => exact .inr ⟨rfl, h⟩

/-- Nobody is told of the failure, and it is not that the user has stopped what is going on. -/
theorem Failure.not_isHandled {script : Engine.Script} {f : Failure} (hmessage : f.message? = none)
    (hf : f ≠ .interrupted) : ¬ f.IsHandled script := by
  rintro (h | h)
  · rw [hmessage] at h
    cases h
  · exact hf h.1

end SqlConsole

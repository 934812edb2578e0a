import Mathlib.Data.List.Forall2
import SqlConsole.Engine.Script

/-! Engines that are the same barring interrupts: where the one interrupts, the other may fail, or go on. -/
namespace SqlConsole.Engine

open List (Forall₂)

/-- There is an interrupt, or the same comes up in its place. -/
def Barring (f? g? : Option Fault) : Prop := f? = some .interrupted ∨ g? = f?

structure Answer.Barring (a b : Answer) : Prop where
  same : b = { a with fault := b.fault }
  fault : Engine.Barring a.fault b.fault

inductive StepAnswer.Barring : StepAnswer → StepAnswer → Prop where
  | same (a : StepAnswer) : Barring a a
  | interrupted (a : StepAnswer) : Barring (.fault .interrupted) a

inductive BackupAnswer.Barring : BackupAnswer → BackupAnswer → Prop where
  | refused (f : Fault) : Barring (.refused f) (.refused f)
  | interrupted (a : BackupAnswer) : Barring (.refused .interrupted) a
  | steps {l l' : List StepAnswer} (h : Forall₂ StepAnswer.Barring l l') : Barring (.steps l) (.steps l')

structure Script.Barring (s t : Script) : Prop where
  answers : Forall₂ Answer.Barring s.answers t.answers
  openFault (filename : String) : Engine.Barring (s.openFault? filename) (t.openFault? filename)
  backups : Forall₂ BackupAnswer.Barring s.backups t.backups
  enableLoadFault : Engine.Barring s.enableLoadFault t.enableLoadFault
  loadFault : Engine.Barring s.loadFault t.loadFault
  fileSystems : t.fileSystems = s.fileSystems
  memory : t.memory = s.memory
  cache : t.cache = s.cache
  knownFileSystems : t.knownFileSystems = s.knownFileSystems
  version : t.version = s.version
  sourceId : t.sourceId = s.sourceId

protected theorem Barring.refl (f? : Option Fault) : Barring f? f? := .inr rfl

namespace Answer.Barring
variable {a b : Answer}

protected theorem refl (a : Answer) : a.Barring a := ⟨rfl, .refl _⟩

theorem sql_eq (h : a.Barring b) : b.sql = a.sql := by rw [h.same]

theorem columns_eq (h : a.Barring b) : b.columns = a.columns := by rw [h.same]

theorem rows_eq (h : a.Barring b) : b.rows = a.rows := by rw [h.same]

theorem notices_eq (h : a.Barring b) : b.notices = a.notices := by rw [h.same]

theorem counters_eq (h : a.Barring b) : b.counters = a.counters := by rw [h.same]

end Answer.Barring

/-- The answers to one step after the other, the last of them again and again. -/
theorem StepAnswer.Barring.getD {l l' : List StepAnswer} (h : Forall₂ StepAnswer.Barring l l') (i : Nat) :
    ((l[i]?.or l.getLast?).getD .done).Barring ((l'[i]?.or l'.getLast?).getD .done) := by
  obtain ⟨hlength, hget⟩ := List.forall₂_iff_get.1 h
  have hat (i : Nat) : Option.Rel StepAnswer.Barring l[i]? l'[i]? := by
    by_cases hi : i < l.length
    · rw [List.getElem?_eq_getElem hi, List.getElem?_eq_getElem (hlength ▸ hi)]
      exact .some (hget i hi (hlength ▸ hi))
    · rw [List.getElem?_eq_none (by omega), List.getElem?_eq_none (by omega)]
      exact .none
  have hi := hat i
  have hlast := hat (l.length - 1)
  rw [List.getLast?_eq_getElem?, List.getLast?_eq_getElem?, ← hlength]
  generalize l[i]? = next? at hi ⊢
  generalize l'[i]? = next?' at hi ⊢
  generalize l[l.length - 1]? = last? at hlast ⊢
  generalize l'[l.length - 1]? = last?' at hlast ⊢
  cases hi with
  | some hab => exact hab
  | none =>
    cases hlast with
    | some hab => exact hab
    | none => exact .same _

protected theorem BackupAnswer.Barring.refl (a : BackupAnswer) : a.Barring a := by
  cases a with
  | refused f => exact .refused f
  | steps l => exact .steps (List.forall₂_same.2 fun a _ => .same a)

namespace Script
variable {s t : Script}

protected theorem Barring.refl (s : Script) : s.Barring s where
  answers := List.forall₂_same.2 fun a _ => .refl a
  openFault _ := .refl _
  backups := List.forall₂_same.2 fun a _ => .refl a
  enableLoadFault := .refl _
  loadFault := .refl _
  fileSystems := rfl
  memory := rfl
  cache := rfl
  knownFileSystems := rfl
  version := rfl
  sourceId := rfl

/-- The answers with a text are asked for in one script as in the other. -/
private theorem barring_filter (h : s.Barring t) (sql : String) :
    Forall₂ Answer.Barring (s.answers.filter (·.sql == sql)) (t.answers.filter (·.sql == sql)) := by
  refine List.rel_filter ?_ h.answers
  intro a b hab
  show (a.sql == sql) = true ↔ (b.sql == sql) = true
  rw [hab.sql_eq]

private theorem barring_dropAnswer {l l' : List Answer} (h : Forall₂ Answer.Barring l l') (sql : String) :
    Forall₂ Answer.Barring (dropAnswer sql l) (dropAnswer sql l') := by
  induction h with
  | nil => exact .nil
  | @cons a b l l' hab hl ih =>
    unfold dropAnswer
    rw [hab.sql_eq]
    split
    · exact hl
    · exact .cons hab ih

theorem Barring.answer (h : s.Barring t) (sql : String) :
    (s.answer sql).1.Barring (t.answer sql).1 ∧ (s.answer sql).2.Barring (t.answer sql).2 := by
  have hfilter := barring_filter h sql
  unfold Script.answer
  generalize s.answers.filter (·.sql == sql) = found at hfilter
  generalize t.answers.filter (·.sql == sql) = found' at hfilter
  cases hfilter with
  | nil => exact ⟨.refl _, h⟩
  | cons hab hrest =>
    cases hrest with
    | nil => exact ⟨hab, h⟩
    | cons => exact ⟨hab, { h with answers := barring_dropAnswer h.answers sql }⟩

theorem Barring.backup (h : s.Barring t) :
    s.backup.1.Barring t.backup.1 ∧ s.backup.2.Barring t.backup.2 := by
  have hbackups := h.backups
  unfold Script.backup
  generalize s.backups = found at hbackups
  generalize t.backups = found' at hbackups
  cases hbackups with
  | nil => exact ⟨.steps (.cons (.same _) .nil), h⟩
  | cons hab hrest => exact ⟨hab, { h with backups := hrest }⟩

end Script
end SqlConsole.Engine

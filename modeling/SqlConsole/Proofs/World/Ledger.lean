import Mathlib.Data.List.Nodup
import SqlConsole.Proofs.World.Sinks

/-! What is open after all that was done: the sinks that the console opens, and its connections to
databases. What was done makes sense only where each of them is opened, used and closed in that order. -/
namespace SqlConsole

/-- The connections that the console has open. -/
structure Links where
  main : Option String := none
  /-- The console's own database has been opened, even if it is closed by now. -/
  spent : Bool := false
  /-- Another database, to copy from or to. -/
  other : Option String := none
  copying : Bool := false
  /-- How the next copies go. -/
  copies : List Engine.BackupAnswer := []
  deriving DecidableEq, Repr

namespace Links

/-- A copy goes between the console's own database and the other one. -/
def Joins (l : Links) (target source : String) : Prop :=
  l.main = some target ∧ l.other = some source ∨ l.main = some source ∧ l.other = some target

instance (l : Links) (target source : String) : Decidable (l.Joins target source) :=
  inferInstanceAs (Decidable (_ ∨ _))

/-- A copy is asked for, and starts unless the engine refuses it. -/
def begun (l : Links) : Links :=
  match l.copies with
  | [] => { l with copying := true }
  | .refused _ :: rest => { l with copies := rest }
  | .steps _ :: rest => { l with copies := rest, copying := true }

/-- The connections after an event; none where it has no place. The console's own database is opened
once, if the engine opens it at all, and nothing is run on it before that or after it has been closed.
A copy that goes on is finished before the other database is closed. -/
def after (script : Engine.Script) (l : Links) : Engine.Event → Option Links
  | .openMain file _ =>
    if l.spent then none
    else if (script.openFault? file).isSome then some l
    else some { l with main := some file, spent := true }
  | .openOther file =>
    if l.other.isSome then none
    else if (script.openFault? file).isSome then some l
    else some { l with other := some file }
  | .close file =>
    if l.copying then none
    else if l.other.isSome then
      if l.other = some file then some { l with other := none } else none
    else if l.main = some file then some { l with main := none } else none
  | .backup target _ source _ => if l.Joins target source ∧ !l.copying then some l.begun else none
  | .step _ => if l.copying then some l else none
  | .sleep _ => if l.copying then some l else none
  | .finish => if l.copying then some { l with copying := false } else none
  | .execute _ _ => if l.main.isSome then some l else none
  | .prepare _ _ => if l.main.isSome then some l else none
  | .abandon => if l.main.isSome then some l else none
  | .busyTimeout _ => if l.main.isSome then some l else none
  | .load _ _ => if l.main.isSome then some l else none
  | .interrupt => if l.main.isSome then some l else none
  | .readHistory _ => some l
  | .writeHistory _ => some l
  | .historyLength _ => some l

/-- The connections after events that come one after the other. -/
def follow (script : Engine.Script) (l : Links) (events : List Engine.Event) : Option Links :=
  events.foldlM (fun l e => l.after script e) l

theorem follow_concat (script : Engine.Script) (l : Links) (events : List Engine.Event)
    (e : Engine.Event) :
    l.follow script (events ++ [e]) = (l.follow script events).bind (·.after script e) := by
  simp [follow, Option.bind_eq_bind]

end Links

namespace Deed

def event? : Deed → Option Engine.Event
  | engine e => some e
  | _ => none

/-- The sink that something is done with. -/
def sink? : Deed → Option Sink
  | wrote k _ => some k
  | opened k => some k
  | closed k => some k
  | _ => none

end Deed

namespace World

/-- What the engine was asked for, the first thing first. -/
def events (w : World) : List Engine.Event := (w.past.filterMap Deed.event?).reverse

/-- What was done with a sink, in order. -/
def concerning (w : World) (k : Sink) : List Deed := (w.past.filter (·.sink? = some k)).reverse

end World

/-- What is open. -/
structure Ledger where
  /-- How many sinks have been opened, which are numbered in that order. -/
  count : Nat := 0
  sinks : List Sink := []
  links : Links := {}
  deriving DecidableEq, Repr

/-- What is open after something was done; none where that has no place. -/
def Ledger.after (script : Engine.Script) (l : Ledger) : Deed → Option Ledger
  | .engine e => (l.links.after script e).map fun links => { l with links }
  | .began _ => some l
  | .wrote k _ => if k.isStream ∨ k ∈ l.sinks then some l else none
  | .opened k =>
    if k.id? = some l.count then some { l with count := l.count + 1, sinks := k :: l.sinks } else none
  | .closed k => if k ∈ l.sinks then some { l with sinks := l.sinks.erase k } else none

/-- Where a run starts: what the engine will say, and which connections are open. -/
structure Origin where
  script : Engine.Script
  links : Links
  /-- What becomes of the bytes that sinks pass on. -/
  taking : Sink → Nat → Taking

/-- What is open after a past, of which the latest comes first. -/
def Origin.ledger? (o : Origin) : List Deed → Option Ledger
  | [] => some { links := o.links }
  | d :: past => (o.ledger? past).bind (·.after o.script d)

namespace Ledger
variable {script : Engine.Script} {l l' : Ledger} {d : Deed} {k : Sink}

/-- What was done with a sink, where that makes sense. A sink that is opened is written to until it is
closed, which happens once. -/
inductive Tale (l : Ledger) (k : Sink) : List Deed → Prop where
  | stream (texts : List String) (hk : k.isStream) : Tale l k (texts.map (.wrote k))
  | unopened (hk : k.isStream = false) (hopen : k ∉ l.sinks) : Tale l k []
  | opened (texts : List String) (hopen : k ∈ l.sinks) : Tale l k (.opened k :: texts.map (.wrote k))
  | closed (texts : List String) (hopen : k ∉ l.sinks) (hid : ∃ id < l.count, k.id? = some id) :
      Tale l k (.opened k :: (texts.map (.wrote k) ++ [.closed k]))

/-- The open sinks are different ones among those that were opened. -/
structure IsOrderly (l : Ledger) : Prop where
  distinct : (l.sinks.map Sink.id?).Nodup
  opened : ∀ k ∈ l.sinks, ∃ id < l.count, k.id? = some id

namespace IsOrderly

theorem nodup (h : l.IsOrderly) : l.sinks.Nodup := List.Nodup.of_map Sink.id? h.distinct

theorem not_stream (h : l.IsOrderly) (hk : k ∈ l.sinks) : k.isStream = false := by
  obtain ⟨id, -, hid⟩ := h.opened k hk
  rw [Sink.isStream, hid]
  rfl

theorem ne_of_mem (h : l.IsOrderly) {k' : Sink} (hk : k.id? = some l.count) (hk' : k' ∈ l.sinks) :
    k'.id? ≠ k.id? := by
  obtain ⟨id, hlt, hid⟩ := h.opened k' hk'
  rw [hid, hk]
  exact fun heq => Nat.lt_irrefl _ (Option.some.inj heq ▸ hlt)

theorem not_mem_of_id (h : l.IsOrderly) (hk : k.id? = some l.count) : k ∉ l.sinks :=
  fun hmem => h.ne_of_mem hk hmem rfl

theorem after (h : l.IsOrderly) (hd : l.after script d = some l') : l'.IsOrderly := by
  cases d with
  | engine e =>
    obtain ⟨links, -, rfl⟩ := Option.map_eq_some_iff.1 hd
    exact ⟨h.distinct, h.opened⟩
  | began sql =>
    cases hd
    exact h
  | wrote k text =>
    obtain ⟨-, ⟨⟩⟩ := Option.ite_none_right_eq_some.1 hd
    exact h
  | opened k =>
    obtain ⟨hid, ⟨⟩⟩ := Option.ite_none_right_eq_some.1 hd
    refine ⟨List.nodup_cons.2 ⟨?_, h.distinct⟩, ?_⟩
    · intro hmem
      obtain ⟨k', hk', heq⟩ := List.mem_map.1 hmem
      exact h.ne_of_mem hid hk' heq
    · intro k' hk'
      rcases List.mem_cons.1 hk' with rfl | hk'
      · exact ⟨_, Nat.lt_succ_self _, hid⟩
      · obtain ⟨id, hlt, hid⟩ := h.opened k' hk'
        exact ⟨id, Nat.lt_succ_of_lt hlt, hid⟩
  | closed k =>
    obtain ⟨-, ⟨⟩⟩ := Option.ite_none_right_eq_some.1 hd
    exact ⟨h.distinct.sublist (List.erase_sublist.map _),
      fun k' hk' => h.opened k' (List.mem_of_mem_erase hk')⟩

end IsOrderly

namespace Tale
variable {deeds : List Deed}

/-- What is done with other sinks does not change the tale of this one. -/
theorem mono (h : l.Tale k deeds) (hopen : k ∈ l'.sinks ↔ k ∈ l.sinks) (hcount : l.count ≤ l'.count) :
    l'.Tale k deeds := by
  cases h with
  | stream texts hk => exact .stream texts hk
  | unopened hk hmem => exact .unopened hk (hmem ∘ hopen.1)
  | opened texts hmem => exact .opened texts (hopen.2 hmem)
  | closed texts hmem hid =>
    obtain ⟨id, hlt, hid⟩ := hid
    exact .closed texts (hmem ∘ hopen.1) ⟨id, Nat.lt_of_lt_of_le hlt hcount, hid⟩

theorem wrote (h : l.Tale k deeds) (hk : k.isStream ∨ k ∈ l.sinks) (text : String) :
    l.Tale k (deeds ++ [.wrote k text]) := by
  have snoc (texts : List String) :
      texts.map (.wrote k) ++ [.wrote k text] = (texts ++ [text]).map (Deed.wrote k) := by simp
  cases h with
  | stream texts hstream =>
    rw [snoc]
    exact .stream _ hstream
  | unopened hstream hmem => simp [hstream, hmem] at hk
  | opened texts hmem =>
    rw [List.cons_append, snoc]
    exact .opened _ hmem
  | closed texts hmem hid =>
    obtain ⟨id, -, hid⟩ := hid
    simp [Sink.isStream, hid, hmem] at hk

theorem start (h : l.Tale k deeds) (hl : l.IsOrderly) (hk : k.id? = some l.count) : deeds = [] := by
  cases h with
  | stream texts hstream => simp [Sink.isStream, hk] at hstream
  | unopened => rfl
  | opened texts hmem => exact absurd hmem (hl.not_mem_of_id hk)
  | closed texts hmem hid =>
    obtain ⟨id, hlt, hid⟩ := hid
    rw [hk] at hid
    cases hid
    exact absurd hlt (Nat.lt_irrefl _)

theorem last (h : l.Tale k deeds) (hl : l.IsOrderly) (hk : k ∈ l.sinks) :
    ∃ texts : List String, deeds = .opened k :: texts.map (.wrote k) := by
  cases h with
  | stream texts hstream => exact absurd hstream (by simp [hl.not_stream hk])
  | unopened hstream hmem => exact absurd hk hmem
  | opened texts => exact ⟨texts, rfl⟩
  | closed texts hmem => exact absurd hk hmem

theorem after (h : l.Tale k deeds) (hl : l.IsOrderly) (hd : l.after script d = some l') :
    l'.Tale k (if d.sink? = some k then deeds ++ [d] else deeds) := by
  cases d with
  | engine e =>
    obtain ⟨links, -, rfl⟩ := Option.map_eq_some_iff.1 hd
    exact h.mono Iff.rfl (Nat.le_refl _)
  | began sql =>
    cases hd
    exact h
  | wrote k' text =>
    obtain ⟨hk, ⟨⟩⟩ := Option.ite_none_right_eq_some.1 hd
    split
    · rename_i heq
      obtain rfl : k' = k := Option.some.inj heq
      exact h.wrote hk text
    · exact h
  | opened k' =>
    obtain ⟨hid, ⟨⟩⟩ := Option.ite_none_right_eq_some.1 hd
    split
    · rename_i heq
      obtain rfl : k' = k := Option.some.inj heq
      rw [h.start hl hid]
      exact .opened [] List.mem_cons_self
    · rename_i hne
      refine h.mono ?_ (Nat.le_succ _)
      rw [List.mem_cons, or_iff_right]
      rintro rfl
      exact hne rfl
  | closed k' =>
    obtain ⟨hmem, ⟨⟩⟩ := Option.ite_none_right_eq_some.1 hd
    split
    · rename_i heq
      obtain rfl : k' = k := Option.some.inj heq
      obtain ⟨texts, rfl⟩ := h.last hl hmem
      exact .closed texts hl.nodup.not_mem_erase (hl.opened _ hmem)
    · rename_i hne
      refine h.mono (List.mem_erase_of_ne ?_) (Nat.le_refl _)
      rintro rfl
      exact hne rfl

end Tale

/-- The sink has been opened and closed. -/
structure Spent (l : Ledger) (k : Sink) : Prop where
  closed : k ∉ l.sinks
  opened : ∃ id < l.count, k.id? = some id

theorem Tale.spent {deeds : List Deed} (h : l.Tale k deeds) (hmem : .closed k ∈ deeds) : l.Spent k := by
  cases h with
  | stream texts => simp at hmem
  | unopened => cases hmem
  | opened texts => simp at hmem
  | closed texts hopen hid => exact ⟨hopen, hid⟩

/-- Nothing is done with such a sink any more. -/
theorem Spent.after (h : l.Spent k) (hd : l.after script d = some l') : d.sink? ≠ some k ∧ l'.Spent k := by
  obtain ⟨hclosed, id, hlt, hid⟩ := h
  cases d with
  | engine e =>
    obtain ⟨links, -, rfl⟩ := Option.map_eq_some_iff.1 hd
    exact ⟨nofun, hclosed, id, hlt, hid⟩
  | began sql =>
    cases hd
    exact ⟨nofun, hclosed, id, hlt, hid⟩
  | wrote k' text =>
    obtain ⟨hk, ⟨⟩⟩ := Option.ite_none_right_eq_some.1 hd
    refine ⟨?_, hclosed, id, hlt, hid⟩
    rintro ⟨⟩
    rcases hk with hstream | hmem
    · simp [Sink.isStream, hid] at hstream
    · exact hclosed hmem
  | opened k' =>
    obtain ⟨hnew, ⟨⟩⟩ := Option.ite_none_right_eq_some.1 hd
    have hne : k ≠ k' := by
      rintro rfl
      exact Nat.lt_irrefl _ (Option.some.inj (hnew.symm.trans hid) ▸ hlt)
    refine ⟨fun heq => hne (Option.some.inj heq).symm, ?_, id, Nat.lt_succ_of_lt hlt, hid⟩
    exact fun hmem => (List.mem_cons.1 hmem).elim hne hclosed
  | closed k' =>
    obtain ⟨hmem, ⟨⟩⟩ := Option.ite_none_right_eq_some.1 hd
    refine ⟨?_, fun hmem' => hclosed (List.mem_of_mem_erase hmem'), id, hlt, hid⟩
    rintro ⟨⟩
    exact hclosed hmem

end Ledger

namespace Origin
variable {o : Origin} {past : List Deed} {w : World} {l : Ledger}

theorem isOrderly (h : o.ledger? past = some l) : l.IsOrderly := by
  induction past generalizing l with
  | nil =>
    cases h
    exact ⟨List.nodup_nil, nofun⟩
  | cons d past ih =>
    obtain ⟨l₀, hl₀, hd⟩ := Option.bind_eq_some_iff.1 h
    exact (ih hl₀).after hd

/-- Where the past makes sense, so does all that was done with any one sink. -/
theorem tale (h : o.ledger? w.past = some l) (k : Sink) : l.Tale k (w.concerning k) := by
  unfold World.concerning
  generalize w.past = past at h
  induction past generalizing l with
  | nil =>
    cases h
    cases hk : k.isStream with
    | true => exact .stream [] hk
    | false => exact .unopened hk List.not_mem_nil
  | cons d past ih =>
    obtain ⟨l₀, hl₀, hd⟩ := Option.bind_eq_some_iff.1 h
    have hnext := (ih hl₀).after (isOrderly hl₀) hd
    rw [List.filter_cons]
    split at hnext <;> rename_i hsink <;> simpa [hsink] using hnext

/-- What was done with a sink until it was closed is all that is ever done with it. -/
theorem concerning_of_closed {w' : World} {l' : Ledger} {k : Sink} (h : o.ledger? w.past = some l)
    (h' : o.ledger? w'.past = some l') (hgrows : w.past <:+ w'.past) (hclosed : .closed k ∈ w.past) :
    w'.concerning k = w.concerning k := by
  have hspent : l.Spent k := (tale h k).spent
    (List.mem_reverse.2 (List.mem_filter.2 ⟨hclosed, decide_eq_true rfl⟩))
  obtain ⟨new, hnew⟩ := hgrows
  unfold World.concerning
  rw [← hnew] at h' ⊢
  clear hnew
  suffices hall : l'.Spent k ∧
      (new ++ w.past).filter (·.sink? = some k) = w.past.filter (·.sink? = some k) by rw [hall.2]
  induction new generalizing l' with
  | nil =>
    cases h.symm.trans h'
    exact ⟨hspent, rfl⟩
  | cons d new ih =>
    obtain ⟨l₁, hl₁, hd⟩ := Option.bind_eq_some_iff.1 h'
    obtain ⟨hspent₁, hsame⟩ := ih hl₁
    obtain ⟨hother, hspent'⟩ := hspent₁.after hd
    exact ⟨hspent', by rw [List.cons_append, List.filter_cons_of_neg (by simpa using hother), hsame]⟩

/-- Where the past makes sense the calls of the engine do. -/
theorem follow_events (h : o.ledger? w.past = some l) : o.links.follow o.script w.events = some l.links := by
  unfold World.events
  generalize w.past = past at h
  induction past generalizing l with
  | nil =>
    cases h
    rfl
  | cons d past ih =>
    obtain ⟨l₀, hl₀, hd⟩ := Option.bind_eq_some_iff.1 h
    have hbefore := ih hl₀
    cases d with
    | engine e =>
      obtain ⟨links, hlinks, rfl⟩ := Option.map_eq_some_iff.1 hd
      rw [List.filterMap_cons_some (show Deed.event? (.engine e) = some e from rfl), List.reverse_cons,
        Links.follow_concat, hbefore]
      exact hlinks
    | began sql =>
      cases hd
      exact hbefore
    | wrote k text =>
      obtain ⟨-, ⟨⟩⟩ := Option.ite_none_right_eq_some.1 hd
      exact hbefore
    | opened k =>
      obtain ⟨-, ⟨⟩⟩ := Option.ite_none_right_eq_some.1 hd
      exact hbefore
    | closed k =>
      obtain ⟨-, ⟨⟩⟩ := Option.ite_none_right_eq_some.1 hd
      exact hbefore

end Origin

end SqlConsole

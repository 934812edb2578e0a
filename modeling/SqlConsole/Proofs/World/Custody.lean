import SqlConsole.Proofs.Engine.Faults
import SqlConsole.Proofs.World.Discreet
import SqlConsole.Proofs.World.Ledger
import SqlConsole.Proofs.World.Safe

/-! Worlds whose past makes sense: what the console has opened is open until it closes it. -/
namespace SqlConsole

/-- The sink, if it is one that the console has opened. -/
def Sink.held (k : Sink) : List Sink := if k.isStream then [] else [k]

/-- What may go wrong with opening a file or a command by its name. -/
def Failure.IsNaming (name : String) (f : Failure) : Prop :=
  f = .complaint (.cannotOpen name) ∨ f = .zeroCharacter ∧ '\x00' ∈ name.toList

namespace Origin

/-- The failures that may come of anything: those that someone deals with, and those of a sink that may
refuse what it is given. -/
def Expects (o : Origin) (f : Failure) : Prop :=
  f.IsHandled o.script ∨ ∃ k fault, f = .sink k fault ∧ k.MayRefuse o.taking

/-- The sinks that are open, and those that were shut when they refused what they held, are the held ones
and some that were lost when another one was shut in their place. -/
structure Balances (o : Origin) (held sinks shut lost : List Sink) (w : World) : Prop where
  perm : (sinks ++ shut).Perm (lost ++ held)
  isOpen : ∀ k ∈ sinks, w.IsOpen k
  isShut : ∀ k ∈ shut, w.IsShut k ∧ k.MayRefuse o.taking
  lost : lost ≠ [] → ∃ k : Sink, k.MayRefuse o.taking

/-- All that was done since the origin makes sense, and it has left these sinks and connections open, but
for sinks that were shut when they refused what they held. -/
structure Accounts (o : Origin) (held : List Sink) (links : Links) (w : World) : Prop where
  ledger : ∃ sinks shut lost, o.Balances held sinks shut lost w ∧
    o.ledger? w.past = some ⟨w.handles.length, sinks, links⟩
  taking : w.taking = o.taking
  script : o.script.Leaves w.script
  copies : w.script.backups = links.copies

/-- What is kept for itself has a property, in a world with a past that makes sense. -/
def At {σ : Type} (o : Origin) (held : List Sink) (links : Links) (O : σ → Prop) (s : Scene σ) : Prop :=
  O s.own ∧ o.Accounts held links s.world

variable {o : Origin} {held held' sinks shut lost : List Sink} {links links' : Links} {w w' : World}
  {j k : Sink}

theorem expects_sink {fault : SinkFault} (hk : k.MayRefuse o.taking) : o.Expects (.sink k fault) :=
  .inr ⟨k, fault, rfl, hk⟩

/-- A sink has not taken what it should have passed on before it was closed. -/
def IsRefusal (o : Origin) (f : Failure) : Prop := ∃ k : Sink, k.MayRefuse o.taking ∧ f = .sink k .refused

theorem IsRefusal.expects {f : Failure} (h : o.IsRefusal f) : o.Expects f := by
  obtain ⟨k, hk, rfl⟩ := h
  exact expects_sink hk

/-- If it is a sink that fails, something that it passes on may be refused. -/
def Permits (o : Origin) (f : Failure) : Prop := ∀ k fault, f = .sink k fault → k.MayRefuse o.taking

theorem permits_of_expects {f : Failure} (h : o.Expects f) : o.Permits f := by
  rintro k fault rfl
  rcases h with h | ⟨_, _, ⟨⟩, hk⟩
  · exact absurd h (Failure.not_isHandled rfl nofun)
  · exact hk

theorem expects_ofFault {f : Engine.Fault} (h : f ∈ o.script.faults) : o.Expects (.ofFault f) :=
  .inl (Failure.isHandled_ofFault h)

theorem expects_complaint (c : Complaint) : o.Expects (.complaint c) := .inl (.inl rfl)

namespace Balances

theorem congr (h : o.Balances held sinks shut lost w) (hopen : ∀ k, w.IsOpen k → w'.IsOpen k)
    (hshut : ∀ k, w.IsShut k → w'.IsShut k) : o.Balances held sinks shut lost w' where
  perm := h.perm
  isOpen k hk := hopen k (h.isOpen k hk)
  isShut k hk := (h.isShut k hk).imp_left (hshut k)
  lost := h.lost

theorem of_handles (h : o.Balances held sinks shut lost w) (hhandles : w'.handles = w.handles) :
    o.Balances held sinks shut lost w' := by
  refine h.congr (fun k hk => ?_) fun k hk => ?_
  · cases k with
    | opened id name => rwa [World.IsOpen, World.target?, World.handle?, hhandles]
    | _ => trivial
  · simpa only [World.IsShut, World.target?, World.handle?, hhandles] using hk

theorem mem_of_isOpen (h : o.Balances held sinks shut lost w) (hk : k ∈ held) (hopen : w.IsOpen k) :
    k ∈ sinks := by
  rcases List.mem_append.1 (h.perm.mem_iff.2 (List.mem_append_right _ hk)) with hmem | hmem
  · exact hmem
  · exact absurd hopen (h.isShut k hmem).1.not_isOpen

/-- Where nothing is ever refused the open ones are just the held ones. -/
theorem perm_of_sound (h : o.Balances held sinks shut lost w) (hsound : ∀ k : Sink, ¬ k.MayRefuse o.taking) :
    sinks.Perm held := by
  have hshut : shut = [] :=
    List.eq_nil_iff_forall_not_mem.2 fun k hk => hsound k (h.isShut k hk).2
  have hlost : lost = [] := by
    by_contra hne
    obtain ⟨k, hk⟩ := h.lost hne
    exact hsound k hk
  have hperm := h.perm
  rwa [hshut, hlost, List.append_nil, List.nil_append] at hperm

end Balances

namespace Accounts

theorem perm (h : o.Accounts held links w) (hperm : held.Perm held') : o.Accounts held' links w := by
  obtain ⟨sinks, shut, lost, hbalances, hledger⟩ := h.ledger
  exact { h with ledger := ⟨sinks, shut, lost,
    { hbalances with perm := hbalances.perm.trans (hperm.append_left lost) }, hledger⟩ }

/-- Sinks may be lost where something is refused. -/
theorem lose (extra : List Sink) (h : o.Accounts (extra ++ held) links w)
    (hk : k.MayRefuse o.taking) : o.Accounts held links w := by
  obtain ⟨sinks, shut, lost, hbalances, hledger⟩ := h.ledger
  have hperm := hbalances.perm
  rw [← List.append_assoc] at hperm
  exact { h with ledger := ⟨sinks, shut, lost ++ extra,
    { hbalances with perm := hperm, lost := fun _ => ⟨k, hk⟩ }, hledger⟩ }

theorem isOpen_or_shut (h : o.Accounts held links w) (hk : k ∈ held) :
    w.IsOpen k ∨ w.IsShut k ∧ k.MayRefuse o.taking := by
  obtain ⟨sinks, shut, lost, hbalances, -⟩ := h.ledger
  rcases List.mem_append.1 (hbalances.perm.mem_iff.2 (List.mem_append_right _ hk)) with hmem | hmem
  · exact .inl (hbalances.isOpen k hmem)
  · exact .inr (hbalances.isShut k hmem)

/-- What is held is not what is opened next. -/
theorem id?_ne_length (h : o.Accounts held links w) (hk : k ∈ held) :
    k.id? ≠ some w.handles.length := by
  intro hid
  rcases h.isOpen_or_shut hk with hopen | ⟨⟨id, hlt, hid', -⟩, -⟩
  · cases k with
    | opened id name => exact Nat.lt_irrefl _ (Option.some.inj hid ▸ hopen.lt_length)
    | _ => cases hid
  · exact Nat.lt_irrefl _ (Option.some.inj (hid'.symm.trans hid) ▸ hlt)

/-- What cannot be written to is a sink that refuses something. -/
theorem mayRefuse_of_not_accepts (h : o.Accounts held links w) (hk : k.isStream ∨ k ∈ held)
    (haccepts : ¬ w.Accepts k) : k.MayRefuse o.taking := by
  rw [World.accepts_iff, not_and_not_right] at haccepts
  rcases hk with hk | hk
  · cases k with
    | opened id name => cases hk
    | _ => exact absurd (haccepts trivial) not_false
  · rcases h.isOpen_or_shut hk with hopen | hshut
    · rw [← h.taking]
      exact haccepts hopen
    · exact hshut.2

/-- What is open is held only once. -/
theorem not_mem_of_isOpen (h : o.Accounts (k :: held) links w) (hopen : w.IsOpen k) : k ∉ held := by
  intro hk
  obtain ⟨sinks, shut, lost, hbalances, hledger⟩ := h.ledger
  have hone : sinks.count k ≤ 1 := List.nodup_iff_count_le_one.1 (Origin.isOrderly hledger).nodup k
  have hnone : shut.count k = 0 :=
    List.count_eq_zero.2 fun hmem => (hbalances.isShut k hmem).1.not_isOpen hopen
  have hcount := hbalances.perm.count_eq k
  have hheld : 0 < held.count k := List.count_pos_iff.2 hk
  simp only [List.count_append, List.count_cons_self] at hcount
  omega

/-- A sink that is held twice was shut when it refused what it held. -/
theorem mayRefuse_of_twice (h : o.Accounts (k :: held) links w) (hk : k ∈ held) : k.MayRefuse o.taking := by
  rcases h.isOpen_or_shut List.mem_cons_self with hopen | hshut
  · exact absurd hk (h.not_mem_of_isOpen hopen)
  · exact hshut.2

/-- What else is held goes by other numbers than what is open. -/
theorem id?_ne_of_isOpen (h : o.Accounts (k :: held) links w) (hopen : w.IsOpen k) (hj : j ∈ held) :
    j.id? ≠ k.id? := by
  intro hid
  have hjopen : w.IsOpen j := by
    cases j with
    | opened id name =>
      cases k with
      | opened id' name' =>
        cases hid
        exact hopen
      | _ => cases hid
    | _ => trivial
  have hne : j ≠ k := fun heq => h.not_mem_of_isOpen hopen (heq ▸ hj)
  obtain ⟨sinks, shut, lost, hbalances, hledger⟩ := h.ledger
  have hmem := hbalances.mem_of_isOpen List.mem_cons_self hopen
  have hjmem := hbalances.mem_of_isOpen (List.mem_cons_of_mem _ hj) hjopen
  exact hne (List.inj_on_of_nodup_map (Origin.isOrderly hledger).distinct hjmem hmem hid)

theorem fullRows (h : o.Accounts held links w) (hfull : o.script.IsFull) : w.script.IsFull :=
  h.script.isFull hfull

/-- The script may change where answers have been used up; nothing else that counts does. -/
theorem answered (h : o.Accounts held links w) (sql : String) :
    o.Accounts held links { w with script := (w.script.answer sql).2 } where
  ledger := by
    obtain ⟨sinks, shut, lost, hbalances, hledger⟩ := h.ledger
    exact ⟨sinks, shut, lost, hbalances.of_handles rfl, hledger⟩
  taking := h.taking
  script := h.script.trans (.answered _ _)
  copies := by
    rw [← h.copies]
    simp only [Engine.Script.answer]
    split <;> rfl

/-- What the engine counts and tells, and the files, do not matter. -/
theorem same (h : o.Accounts held links w) (hpast : w'.past = w.past) (hhandles : w'.handles = w.handles)
    (hscript : w'.script = w.script) (htaking : w'.taking = w.taking) : o.Accounts held links w' where
  ledger := by
    obtain ⟨sinks, shut, lost, hbalances, hledger⟩ := h.ledger
    exact ⟨sinks, shut, lost, hbalances.of_handles hhandles, by rwa [hpast, hhandles]⟩
  taking := htaking.trans h.taking
  script := hscript ▸ h.script
  copies := by rw [hscript, h.copies]

/-- Something is done that opens and closes no sink. -/
theorem noted {d : Deed} (h : o.Accounts held links w)
    (hd : ∀ sinks, Ledger.after o.script ⟨w.handles.length, sinks, links⟩ d =
      some ⟨w.handles.length, sinks, links'⟩)
    (hcopies : links'.copies = links.copies) :
    o.Accounts held links' { w with past := d :: w.past } where
  ledger := by
    obtain ⟨sinks, shut, lost, hbalances, hledger⟩ := h.ledger
    exact ⟨sinks, shut, lost, hbalances.of_handles rfl,
      by rw [ledger?, hledger]; exact hd sinks⟩
  taking := h.taking
  script := h.script
  copies := h.copies.trans hcopies.symm

theorem event {e : Engine.Event} (h : o.Accounts held links w)
    (he : links.after o.script e = some links') (hcopies : links'.copies = links.copies) :
    o.Accounts held links' { w with past := .engine e :: w.past } :=
  h.noted (fun sinks => by rw [Ledger.after, he]; rfl) hcopies

/-- The engine is asked for a copy, and says how that goes. -/
theorem backedUp {e : Engine.Event} (h : o.Accounts held links w)
    (he : links.after o.script e = some links') (hcopies : w.script.backup.2.backups = links'.copies) :
    o.Accounts held links'
      { w with past := .engine e :: w.past, script := w.script.backup.2 } where
  ledger := by
    obtain ⟨sinks, shut, lost, hbalances, hledger⟩ := h.ledger
    exact ⟨sinks, shut, lost, hbalances.of_handles rfl,
      by rw [ledger?, hledger]; simp [Ledger.after, he]⟩
  taking := h.taking
  script := h.script.trans (.backedUp _)
  copies := hcopies

theorem began (h : o.Accounts held links w) (sql : String) :
    o.Accounts held links { w with past := .began sql :: w.past } :=
  h.noted (fun _ => rfl) rfl

private theorem of_stays (h : o.Accounts held links w) (hstays : World.Stays k w w')
    (hledger : ∀ sinks, (k ∈ held → w.IsOpen k → k ∈ sinks) →
      o.ledger? w.past = some ⟨w.handles.length, sinks, links⟩ →
      o.ledger? w'.past = some ⟨w.handles.length, sinks, links⟩) : o.Accounts held links w' where
  ledger := by
    obtain ⟨sinks, shut, lost, hbalances, hpast⟩ := h.ledger
    refine ⟨sinks, shut, lost, hbalances.congr (fun k' => (hstays.isOpen_iff k').2)
      fun k' => (hstays.isShut_iff k').2, ?_⟩
    rw [hstays.count]
    exact hledger sinks hbalances.mem_of_isOpen hpast
  taking := hstays.taking.trans h.taking
  script := hstays.script ▸ h.script
  copies := by rw [hstays.script, h.copies]

/-- Text is passed on by a sink. -/
theorem stays (h : o.Accounts held links w) (hstays : World.Stays k w w') (hpast : w'.past = w.past) :
    o.Accounts held links w' :=
  h.of_stays hstays fun _ _ hledger => by rwa [hpast]

/-- Text goes to a sink that is open. -/
theorem wrote {text : String} (h : o.Accounts held links w) (hk : k.isStream ∨ k ∈ held) (hopen : w.IsOpen k)
    (hstays : World.Stays k w w') (hpast : w'.past = .wrote k text :: w.past) :
    o.Accounts held links w' := by
  refine h.of_stays hstays fun sinks hmem hledger => ?_
  rw [hpast, ledger?, hledger]
  exact if_pos (hk.imp_right fun hk => hmem hk hopen)

/-- A sink is closed, which stays with the console where that was refused. -/
theorem closed (h : o.Accounts (k :: held) links w) (hopen : w.IsOpen k) (hshut : w'.IsShut k)
    (hcount : w'.handles.length = w.handles.length) (hscript : w'.script = w.script)
    (htaking : w'.taking = w.taking) (hpast : w'.past = .closed k :: w.past)
    (hothers : ∀ k', k'.id? ≠ k.id? → w.IsOpen k' → w'.IsOpen k')
    (hshuts : ∀ k', w.IsShut k' → w'.IsShut k') :
    o.Accounts held links w' ∧ (k.MayRefuse o.taking → o.Accounts (k :: held) links w') := by
  obtain ⟨sinks, shut, lost, hbalances, hledger⟩ := h.ledger
  have hmem := hbalances.mem_of_isOpen List.mem_cons_self hopen
  have horderly := Origin.isOrderly hledger
  have hledger' : o.ledger? w'.past = some ⟨w'.handles.length, sinks.erase k, links⟩ := by
    rw [hpast, hcount, ledger?, hledger]
    exact if_pos hmem
  have hopen' (k' : Sink) (hk' : k' ∈ sinks.erase k) : w'.IsOpen k' := by
    obtain ⟨hne, hk'⟩ := (horderly.nodup.mem_erase_iff).1 hk'
    exact hothers k' (fun hid => hne (List.inj_on_of_nodup_map horderly.distinct hk' hmem hid))
      (hbalances.isOpen k' hk')
  have hshut' (k' : Sink) (hk' : k' ∈ shut) : w'.IsShut k' ∧ k'.MayRefuse o.taking :=
    (hbalances.isShut k' hk').imp_left (hshuts k')
  have hperm : (k :: (sinks.erase k ++ shut)).Perm (k :: (lost ++ held)) :=
    ((List.perm_cons_erase hmem).symm.append_right shut).trans
      (hbalances.perm.trans List.perm_middle)
  have hscripts : o.script.Leaves w'.script := hscript ▸ h.script
  have hcopies : w'.script.backups = links.copies := by rw [hscript, h.copies]
  refine ⟨⟨⟨_, shut, lost, ⟨hperm.cons_inv, hopen', hshut', hbalances.lost⟩, hledger'⟩,
    htaking.trans h.taking, hscripts, hcopies⟩, fun hk => ?_⟩
  refine ⟨⟨_, k :: shut, lost, ⟨?_, hopen', ?_, hbalances.lost⟩, hledger'⟩, htaking.trans h.taking,
    hscripts, hcopies⟩
  · exact List.perm_middle.trans (hperm.trans List.perm_middle.symm)
  · exact List.forall_mem_cons.2 ⟨⟨hshut, hk⟩, hshut'⟩

theorem opened {name : String} (h : o.Accounts held links w)
    (hcount : w'.handles.length = w.handles.length + 1) (hscript : w'.script = w.script)
    (htaking : w'.taking = w.taking)
    (hpast : w'.past = .opened (.opened w.handles.length name) :: w.past)
    (hnew : w'.IsOpen (.opened w.handles.length name)) (hothers : ∀ k', w.IsOpen k' → w'.IsOpen k')
    (hshuts : ∀ k', w.IsShut k' → w'.IsShut k') :
    o.Accounts (.opened w.handles.length name :: held) links w' where
  ledger := by
    obtain ⟨sinks, shut, lost, hbalances, hledger⟩ := h.ledger
    have hbalances' := hbalances.congr hothers hshuts
    refine ⟨_ :: sinks, shut, lost, ⟨?_, List.forall_mem_cons.2 ⟨hnew, hbalances'.isOpen⟩,
      hbalances'.isShut, hbalances.lost⟩, ?_⟩
    · exact (hbalances.perm.cons _).trans List.perm_middle.symm
    · rw [hpast, hcount, ledger?, hledger]
      exact if_pos rfl
  taking := htaking.trans h.taking
  script := hscript ▸ h.script
  copies := by rw [hscript, h.copies]

end Accounts

end Origin

namespace Act
variable {σ : Type}

theorem close_of_not_isOpen {k : Sink} {s : Scene σ} (hk : ¬ s.world.IsOpen k) :
    close k s = (.ok (), s) := by
  cases k with
  | opened id name =>
    have hid := World.not_isOpen_iff.1 hk
    simp only [close, bind_apply, world, hid]
    rfl
  | _ => rfl

/-- A sink that is open is closed in any case, also where what it held is refused. -/
theorem close_of_isOpen {id : Nat} {name : String} {s : Scene σ}
    (hk : s.world.IsOpen (.opened id name)) :
    ∃ r w, close (.opened id name) s = (r, ⟨w, s.own⟩) ∧ PassesOn s.world (.opened id name) r ∧
      w.script = s.world.script ∧ w.taking = s.world.taking ∧
      w.handles.length = s.world.handles.length ∧
      w.past = .closed (.opened id name) :: s.world.past ∧ w.target? id = none ∧
      (∀ i ≠ id, w.target? i = s.world.target? i) ∧ w.logging = s.world.logging := by
  obtain ⟨h, hid⟩ := hk.exists_handle
  have hlt := World.lt_of_handle? hid
  let taking := s.world.taking (.opened id name) h.turns
  let n := taking.count h.heldSize
  let w : World := { s.world with files := (h.release n).finish (h.passOn n s.world.files) }.setHandle id
    { h.release n with isOpen := false }
  refine ⟨passedOn (.opened id name) (taking.refuses h.heldSize),
    { w with past := .closed (.opened id name) :: w.past }, ?_, ?_, rfl, rfl, List.length_set, rfl, ?_, ?_,
    rfl⟩
  · simp only [close, bind_apply, world, hid, modifyWorld, note, passedOn]
    split <;> rfl
  · refine passesOn fun hall => ?_
    rw [show taking = .all from hall h.turns]
    rfl
  · simp [w, World.target?, World.handle?, World.setHandle, hlt]
  · intro i hi
    simp [w, World.target?, World.handle?, World.setHandle, List.getElem?_set_ne (Ne.symm hi)]

end Act

namespace Origin
open Act (Ensures Safe)

variable {σ : Type} {o : Origin} {held : List Sink} {links : Links} {O : σ → Prop}
  {F : Failure → Prop} {k : Sink}

theorem safe_event {e : Engine.Event} (he : links.after o.script e = some links) :
    Safe (o.At held links O) F (Act.event e) :=
  fun _ hs => ⟨hs.1, hs.2.event he rfl⟩

theorem safe_began (sql : String) : Safe (o.At held links O) F (Act.note (.began sql)) :=
  fun _ hs => ⟨hs.1, hs.2.began sql⟩

theorem safe_modifyWorld {f : World → World} (hpast : ∀ w, (f w).past = w.past)
    (hhandles : ∀ w, (f w).handles = w.handles) (hscript : ∀ w, (f w).script = w.script)
    (htaking : ∀ w, (f w).taking = w.taking) : Safe (o.At held links O) F (Act.modifyWorld f) :=
  fun _ hs => ⟨hs.1, hs.2.same (hpast _) (hhandles _) (hscript _) (htaking _)⟩

/-- What is kept outside does not change meanwhile. -/
theorem safe_within {τ α : Type} {own : τ} {x : Act τ α}
    (hx : Safe (o.At held links fun _ => True) F x) :
    Safe (o.At held links O) F (Act.within own x) := by
  rintro s ⟨hown, hs⟩
  have hends := hx ⟨s.world, own⟩ ⟨trivial, hs⟩
  simp only [Act.within]
  rcases hx' : x ⟨s.world, own⟩ with ⟨e | a, s'⟩ <;> rw [hx'] at hends
  · exact ⟨⟨hown, hends.1.2⟩, hends.2⟩
  · exact ⟨hown, hends.2⟩

/-- Writing fails only by a sink that may refuse something. -/
theorem safe_write (hF : ∀ f, o.Expects f → F f) (hk : k.isStream ∨ k ∈ held) (text : List Char) :
    Safe (o.At held links O) F (Act.write k text) := by
  rintro s ⟨hown, h⟩
  by_cases hopen : s.world.IsOpen k
  · obtain ⟨r, w, heq, hr, hstays, hpast⟩ := Act.write_of_isOpen hopen text
    have h' := h.wrote hk hopen hstays hpast
    rw [heq]
    rcases hr with rfl | ⟨rfl, hrefuses⟩
    · exact ⟨hown, h'⟩
    · exact ⟨⟨hown, h'⟩, hF _ (expects_sink (h.taking ▸ hrefuses))⟩
  · rw [Act.write_of_not_isOpen hopen]
    exact ⟨⟨hown, h⟩, hF _ (expects_sink (h.mayRefuse_of_not_accepts hk fun hk => hopen hk.isOpen))⟩

/-- Streams take all. -/
theorem safe_tellStream (hk : k.isStream) (text : List Char) :
    Safe (o.At held links O) F (Act.write k text) := by
  rintro s ⟨hown, h⟩
  have haccepts : s.world.Accepts k := by
    cases k with
    | opened id name => cases hk
    | _ => trivial
  obtain ⟨w, heq, hstays, hpast⟩ := Act.exists_write haccepts text
  rw [heq]
  exact ⟨hown, h.wrote (.inl hk) haccepts.isOpen hstays hpast⟩

theorem safe_flush (hF : ∀ f, o.Expects f → F f) (hk : k.isStream ∨ k ∈ held) :
    Safe (o.At held links O) F (Act.flush k) := by
  rintro s ⟨hown, h⟩
  obtain ⟨r, w, heq, hstays, hpast, hr⟩ := Act.flush_cases k s
  have h' := h.stays hstays hpast
  rw [heq]
  rcases hr with rfl | ⟨fault, rfl, haccepts⟩
  · exact ⟨hown, h'⟩
  · exact ⟨⟨hown, h'⟩, hF _ (expects_sink (h.mayRefuse_of_not_accepts hk haccepts))⟩

/-- A sink that is closed need not be held any more; a stream never was. Where the sink refuses what it held
it may also be kept. -/
theorem ensures_close (k : Sink) :
    Ensures (o.At (k.held ++ held) links O) (Act.close k) (fun _ => o.At held links O)
      (fun f s => o.At held links O s ∧ o.At (k.held ++ held) links O s ∧ o.IsRefusal f) := by
  cases k with
  | opened id name =>
    rintro s ⟨hown, h⟩
    by_cases hopen : s.world.IsOpen (.opened id name)
    · obtain ⟨r, w, heq, hr, hscript, htaking, hcount, hpast, hnone, hothers, -⟩ := Act.close_of_isOpen hopen
      have hshut : w.IsShut (.opened id name) := ⟨id, hcount ▸ hopen.lt_length, rfl, hnone⟩
      obtain ⟨hclosed, hkept⟩ := h.closed hopen hshut hcount hscript htaking hpast
        (fun k' hk' hopen' => by
          cases k' with
          | opened id' name' => rwa [World.IsOpen, hothers id' fun hid => hk' (congrArg some hid)]
          | _ => trivial)
        fun k' ⟨i, hlt, hi, hnone'⟩ => ⟨i, hcount ▸ hlt, hi, by
          by_cases hid : i = id
          · rwa [hid]
          · rwa [hothers i hid]⟩
      rw [heq]
      rcases hr with rfl | ⟨rfl, hrefuses⟩
      · exact ⟨hown, hclosed⟩
      · have hmay : (Sink.opened id name).MayRefuse o.taking := h.taking ▸ hrefuses
        exact ⟨⟨hown, hclosed⟩, ⟨hown, hkept hmay⟩, _, hmay, rfl⟩
    · have hmay := h.mayRefuse_of_not_accepts (.inr List.mem_cons_self) fun hk => hopen hk.isOpen
      rw [Act.close_of_not_isOpen hopen]
      exact ⟨hown, Accounts.lose [.opened id name] h hmay⟩
  | _ => exact fun _ hs => hs

private theorem ensures_added {E : Failure → Scene σ → Prop} (name : String) (target : Target)
    (files : World.Files → World.Files) :
    Ensures (o.At held links O)
      (do
        Act.modifyWorld fun w => { w with files := files w.files }
        let k := Sink.opened (← Act.world).handles.length name
        Act.modifyWorld fun w => { w with handles := w.handles ++ [{ target }] }
        Act.note (.opened k)
        pure k : Act σ Sink)
      (fun k => o.At (k.held ++ held) links O) E := by
  rintro s ⟨hown, h⟩
  let w : World :=
    { s.world with
      files := files s.world.files
      handles := s.world.handles ++ [{ target }]
      past := .opened (.opened s.world.handles.length name) :: s.world.past }
  show O s.own ∧ o.Accounts (.opened s.world.handles.length name :: held) links w
  refine ⟨hown, h.opened (by simp [w]) rfl rfl rfl ?_ (fun k' hk' => hk'.add _ _ _)
    fun k' hk' => hk'.add _ _ _⟩
  simp [w, World.IsOpen, World.target?, World.handle?]

/-- A name is checked before anything is opened by it. -/
theorem ensures_checked {α : Type} {name : String} {x : Act σ α} {I : Scene σ → Prop}
    {Q : α → Scene σ → Prop} {E : Failure → Scene σ → Prop}
    (hx : Ensures I x Q E) (hE : ∀ s, I s → '\x00' ∈ name.toList → E .zeroCharacter s) :
    Ensures I ((if name.toList.contains '\x00' then Act.fail .zeroCharacter else pure () :
      Act σ Unit) >>= fun _ => x) Q E := by
  split
  · rename_i hzero
    exact fun s hs => hE s hs (List.contains_iff_mem.1 hzero)
  · exact hx

theorem ensures_openFile (name : String) :
    Ensures (o.At held links O) (Act.openFile name) (fun k => o.At (k.held ++ held) links O)
      (fun f s => o.At held links O s ∧ f.IsNaming name) := by
  refine ensures_checked (.inWorld fun w => ?_) fun s hs hzero => ⟨hs, .inr ⟨rfl, hzero⟩⟩
  have hadded (p : World.Path) := @ensures_added σ o held links O
    (fun f s => o.At held links O s ∧ f.IsNaming name) name (.file p) fun fs => fs.put p []
  split
  · exact (hadded _).pre fun _ hs => hs.2
  · exact (hadded _).pre fun _ hs => hs.2
  · exact .fail fun _ hs => ⟨hs.2, .inl rfl⟩

theorem ensures_openCommand (line : String) :
    Ensures (o.At held links O) (Act.openCommand line) (fun k => o.At (k.held ++ held) links O)
      (fun f s => o.At held links O s ∧ f.IsNaming line) :=
  ensures_checked (ensures_added _ _ id) fun _ hs hzero => ⟨hs, .inr ⟨rfl, hzero⟩⟩

/-- Where nothing is opened nothing has changed. -/
theorem openFile_fails (name : String) (s : Scene σ) :
    Ensures (fun t => t = s) (Act.openFile name) (fun _ t => t.own = s.own) (fun _ t => t = s) := by
  refine ensures_checked (.inWorld fun w => ?_) fun _ ht _ => ht
  split
  · exact fun t ht => show t.own = s.own by rw [ht.2]
  · exact fun t ht => show t.own = s.own by rw [ht.2]
  · exact .fail fun _ ht => ht.2

theorem openCommand_fails (line : String) (s : Scene σ) :
    Ensures (fun t => t = s) (Act.openCommand line) (fun _ t => t.own = s.own) (fun _ t => t = s) :=
  ensures_checked (fun t ht => show t.own = s.own by rw [ht]) fun _ ht _ => ht

/-- Opening a file to read it opens nothing that would have to be closed. -/
theorem openSource?_eq (name : String) (ends : Text.LineEnds) (s : Scene σ) :
    (∃ source?, Act.openSource? name ends s = (.ok source?, s)) ∨
      Act.openSource? name ends s = (.error .zeroCharacter, s) ∧ '\x00' ∈ name.toList := by
  have hends : Ensures (fun t => t = s) (Act.openSource? name ends) (fun _ t => t = s)
      (fun f t => t = s ∧ f = .zeroCharacter ∧ '\x00' ∈ name.toList) := by
    refine ensures_checked (.inWorld fun w => ?_) fun t ht hzero => ⟨ht, rfl, hzero⟩
    split
    · exact .pure fun _ ht => ht.2
    · exact .pure fun _ ht => ht.2
  have hopen := hends s rfl
  rcases heq : Act.openSource? name ends s with ⟨f | source?, t⟩ <;> rw [heq] at hopen
  · obtain ⟨rfl, rfl, hzero⟩ := hopen
    exact .inr ⟨rfl, hzero⟩
  · obtain rfl : t = s := hopen
    exact .inl ⟨source?, rfl⟩

theorem safe_openSource? {I : Scene σ → Prop} {name : String}
    (hF : '\x00' ∈ name.toList → F .zeroCharacter) (ends : Text.LineEnds) :
    Safe I F (Act.openSource? name ends) := by
  intro s hs
  rcases openSource?_eq name ends s with ⟨source?, heq⟩ | ⟨heq, hzero⟩ <;> rw [heq]
  · exact hs
  · exact ⟨hs, hF hzero⟩

theorem safe_readLine {I : Scene σ → Prop} (hF : F .undecodable) (f : Source) :
    Safe I F (Act.readLine f) := by
  refine .world fun s _ => ?_
  split
  · exact .pure _
  · exact .fail hF

theorem safe_lineLimit {I : Scene σ → Prop} (f : Source) : Safe I F (Act.lineLimit f) :=
  .world fun _ _ => .pure _

end Origin
end SqlConsole

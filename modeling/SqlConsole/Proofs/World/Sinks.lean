import SqlConsole.World.Stream

/-! Text that goes to a sink: what has been written there, what becomes of it, and what stays as it is
meanwhile. -/
namespace SqlConsole

/-- The text that a deed writes to a sink, if it does. -/
def Deed.textTo? (k : Sink) : Deed → Option String
  | .wrote k' text => if k' = k then some text else none
  | _ => none

/-- Something did not get into a sink. -/
def Failure.IsOfSink (f : Failure) : Prop := ∃ k fault, f = .sink k fault

/-- Where bytes are taken like this, some that the sink passes on may be refused, whatever its name is. -/
def Sink.MayRefuse (taking : Sink → Nat → Taking) : Sink → Prop
  | .opened id _ => ∃ name turn, taking (.opened id name) turn ≠ .all
  | _ => False

namespace World

/-- The texts that were written to a sink, the first one first. -/
def written (w : World) (k : Sink) : List String := (w.past.filterMap (Deed.textTo? k)).reverse

/-- Where a sink that is open puts its text. -/
def target? (w : World) (id : Nat) : Option Target := (w.handle? id).map (·.target)

/-- It is a stream of others, or the console has it open. -/
def IsOpen (w : World) : Sink → Prop
  | .opened id _ => (w.target? id).isSome
  | _ => True

/-- Something that is passed on by the sink may be refused. -/
def Refuses (w : World) (k : Sink) : Prop := k.MayRefuse w.taking

/-- Text can be written to the sink: it is a stream of others, or the console has it open and it takes
all that it is given. -/
def Accepts (w : World) : Sink → Prop
  | .opened id name => w.IsOpen (.opened id name) ∧ ¬ w.Refuses (.opened id name)
  | _ => True

/-- The console had the sink open, and has closed it. -/
def IsShut (w : World) (k : Sink) : Prop := ∃ id < w.handles.length, k.id? = some id ∧ w.target? id = none

/-- Text that is written to the sink comes into the file. -/
def Feeds (w : World) (k : Sink) (p : Path) : Prop :=
  ∃ id name, k = .opened id name ∧ w.target? id = some (.file p)

/-- What stays as it is when text goes to the sink. -/
structure Stays (k : Sink) (w w' : World) : Prop where
  script : w'.script = w.script
  logging : w'.logging = w.logging
  statement : w'.statement = w.statement
  taking : w'.taking = w.taking
  count : w'.handles.length = w.handles.length
  target : ∀ id, w'.target? id = w.target? id
  others : ∀ id, k.id? ≠ some id → w'.handle? id = w.handle? id
  content : ∀ p, ¬ w.Feeds k p → w'.files.content? p = w.files.content? p

variable {k : Sink} {w w' w'' : World} {id : Nat} {name : String} {g h : Handle}

theorem accepts_iff (w : World) (k : Sink) : w.Accepts k ↔ w.IsOpen k ∧ ¬ w.Refuses k := by
  cases k with
  | opened id name => exact .rfl
  | _ => exact ⟨fun _ => ⟨trivial, not_false⟩, fun _ => trivial⟩

theorem Accepts.isOpen (h : w.Accepts k) : w.IsOpen k := ((w.accepts_iff k).1 h).1

theorem Accepts.not_refuses (h : w.Accepts k) : ¬ w.Refuses k := ((w.accepts_iff k).1 h).2

/-- Whether text can be written goes by what is open and by what is refused. -/
theorem accepts_congr (hopen : w'.IsOpen k ↔ w.IsOpen k) (htaking : w'.Refuses k ↔ w.Refuses k) :
    w'.Accepts k ↔ w.Accepts k := by
  rw [accepts_iff, accepts_iff, hopen, htaking]

theorem IsOpen.exists_handle (h : w.IsOpen (.opened id name)) : ∃ g, w.handle? id = some g := by
  simpa [IsOpen, target?, Option.isSome_iff_exists] using h

theorem not_isOpen_iff : ¬ w.IsOpen (.opened id name) ↔ w.handle? id = none := by
  simp [IsOpen, target?]

theorem lt_of_handle? (h : w.handle? id = some g) : id < w.handles.length :=
  (List.getElem?_eq_some_iff.1 (Option.filter_eq_some_iff.1 h).1).1

theorem IsOpen.lt_length (h : w.IsOpen (.opened id name)) : id < w.handles.length := by
  obtain ⟨g, hg⟩ := h.exists_handle
  exact lt_of_handle? hg

theorem IsShut.not_isOpen (h : w.IsShut k) : ¬ w.IsOpen k := by
  obtain ⟨id, -, hid, hnone⟩ := h
  cases k with
  | opened id' name =>
    cases hid
    simp [IsOpen, hnone]
  | _ => cases hid

/-- What is open still is when another handle is added. -/
theorem IsOpen.add (hk : w.IsOpen k) (files : Files) (past : List Deed) (h : Handle) :
    ({ w with files, past, handles := w.handles ++ [h] } : World).IsOpen k := by
  cases k with
  | opened id name => simpa [IsOpen, target?, handle?, List.getElem?_append_left hk.lt_length] using hk
  | _ => trivial

theorem IsShut.add (hk : w.IsShut k) (files : Files) (past : List Deed) (h : Handle) :
    ({ w with files, past, handles := w.handles ++ [h] } : World).IsShut k := by
  obtain ⟨id, hlt, hid, hnone⟩ := hk
  refine ⟨id, ?_, hid, ?_⟩
  · rw [List.length_append]
    omega
  · simpa [target?, handle?, List.getElem?_append_left hlt] using hnone

theorem refuses_congr (h : w'.taking = w.taking) (k : Sink) : w'.Refuses k ↔ w.Refuses k := by
  rw [Refuses, Refuses, h]

theorem written_of_past {d : Deed} (h : w'.past = d :: w.past) (k : Sink) :
    w'.written k = w.written k ++ (d.textTo? k).toList := by
  cases hd : d.textTo? k <;> simp [written, h, hd]

theorem written_of_texts {texts : List String} (h : w'.past = (texts.map (.wrote k)).reverse ++ w.past) :
    w'.written k = w.written k ++ texts := by
  have hkept : (texts.map (Deed.wrote k)).filterMap (Deed.textTo? k) = texts := by
    simp [List.filterMap_map, Function.comp_def, Deed.textTo?]
  rw [written, h, List.filterMap_append, List.reverse_append, List.filterMap_reverse, List.reverse_reverse,
    hkept, written]

theorem written_note (w : World) (d : Deed) (k : Sink) :
    ({ w with past := d :: w.past } : World).written k = w.written k ++ (d.textTo? k).toList :=
  written_of_past rfl k

theorem Files.content?_put_of_ne {fs : Files} {p q : Path} {bytes : List UInt8} (h : q ≠ p) :
    (fs.put p bytes).content? q = fs.content? q := by
  have lookup_replace (l : List (Path × List UInt8)) :
      (put.replace p bytes l).lookup q = l.lookup q := by
    fun_induction put.replace p bytes l with
    | case1 => rw [List.lookup_cons, beq_eq_false_iff_ne.2 h]
    | case2 b r => simp only [List.lookup_cons, beq_eq_false_iff_ne.2 h]
    | case3 q' b r hq ih => simp only [List.lookup_cons, ih]
  unfold put
  split
  · rfl
  · simp [content?, lookup_replace]

theorem handle?_setHandle (hid : w.handle? id = some h) (hopen : g.isOpen = h.isOpen) :
    (w.setHandle id g).handle? id = some g := by
  have hisOpen := (Option.filter_eq_some_iff.1 hid).2
  simp [handle?, setHandle, lt_of_handle? hid, hopen, hisOpen]

theorem handle?_setHandle_of_ne {i : Nat} (hi : id ≠ i) (w : World) (g : Handle) :
    (w.setHandle id g).handle? i = w.handle? i := by
  simp [handle?, setHandle, List.getElem?_set_ne hi]

theorem target?_setHandle (hid : w.handle? id = some h) (hopen : g.isOpen = h.isOpen)
    (htarget : g.target = h.target) (i : Nat) : (w.setHandle id g).target? i = w.target? i := by
  by_cases hi : id = i
  · subst hi
    rw [target?, target?, handle?_setHandle hid hopen, hid, Option.map_some, Option.map_some, htarget]
  · rw [target?, target?, handle?_setHandle_of_ne hi]

namespace Stays

protected theorem refl (k : Sink) (w : World) : Stays k w w :=
  ⟨rfl, rfl, rfl, rfl, rfl, fun _ => rfl, fun _ _ => rfl, fun _ _ => rfl⟩

theorem feeds_iff (h : Stays k w w') (k' : Sink) (p : Path) : w'.Feeds k' p ↔ w.Feeds k' p := by
  simp only [Feeds, h.target]

theorem isOpen_iff (h : Stays k w w') (k' : Sink) : w'.IsOpen k' ↔ w.IsOpen k' := by
  cases k' <;> simp [IsOpen, h.target]

theorem isShut_iff (h : Stays k w w') (k' : Sink) : w'.IsShut k' ↔ w.IsShut k' := by
  simp only [IsShut, h.target, h.count]

theorem accepts_iff (h : Stays k w w') (k' : Sink) : w'.Accepts k' ↔ w.Accepts k' :=
  accepts_congr (h.isOpen_iff k') (refuses_congr h.taking k')

theorem trans (h : Stays k w w') (h' : Stays k w' w'') : Stays k w w'' where
  script := h'.script.trans h.script
  logging := h'.logging.trans h.logging
  statement := h'.statement.trans h.statement
  taking := h'.taking.trans h.taking
  count := h'.count.trans h.count
  target id := (h'.target id).trans (h.target id)
  others id hid := (h'.others id hid).trans (h.others id hid)
  content p hp := (h'.content p fun hf => hp ((h.feeds_iff k p).1 hf)).trans (h.content p hp)

/-- The past does not matter. -/
theorem note (h : Stays k w w') (past : List Deed) : Stays k w { w' with past } :=
  ⟨h.script, h.logging, h.statement, h.taking, h.count, h.target, h.others, h.content⟩

end Stays

/-- A handle that is open gets another state, and its file may get text. -/
theorem stays_setHandle (hid : w.handle? id = some h) (hopen : g.isOpen = h.isOpen)
    (htarget : g.target = h.target) {files : Files}
    (hfiles : ∀ p, h.target ≠ .file p → files.content? p = w.files.content? p) :
    Stays (.opened id name) w ({ w with files }.setHandle id g) where
  script := rfl
  logging := rfl
  statement := rfl
  taking := rfl
  count := List.length_set
  target i := target?_setHandle (w := { w with files }) hid hopen htarget i
  others i hi := handle?_setHandle_of_ne (fun heq => hi (congrArg some heq)) { w with files } g
  content p hp := hfiles p fun htarget => hp ⟨id, name, rfl, by rw [target?, hid, ← htarget]; rfl⟩

end World

namespace Handle
variable {h : Handle}

theorem content?_passOn {files : World.Files} {p : World.Path} {n : Nat} (hp : h.target ≠ .file p) :
    (h.passOn n files).content? p = files.content? p := by
  unfold passOn
  split
  · next q hq =>
    dsimp only
    split
    · rfl
    · exact World.Files.content?_put_of_ne fun heq => hp (heq ▸ hq)
  · rfl

/-- What a handle that is flushed comes to, and whether what it holds is refused. -/
def flushed (taking : Nat → Taking) (h : Handle) : Handle × Bool :=
  if h.heldSize = 0 then (h, false)
  else (h.release ((taking h.turns).count h.heldSize), (taking h.turns).refuses h.heldSize)

/-- What a handle that gets text comes to, and whether what it holds is refused then. -/
def added (taking : Nat → Taking) (h : Handle) (text : List Char) : Handle × Bool :=
  if (h.hold (Text.utf8 text)).isFull then (h.hold (Text.utf8 text)).flushed taking
  else (h.hold (Text.utf8 text), false)

variable {taking : Nat → Taking}

theorem isOpen_flushed : (h.flushed taking).1.isOpen = h.isOpen := by
  unfold flushed
  split <;> rfl

theorem target_flushed : (h.flushed taking).1.target = h.target := by
  unfold flushed
  split <;> rfl

theorem isOpen_added {text : List Char} : (h.added taking text).1.isOpen = h.isOpen := by
  unfold added
  split
  · exact isOpen_flushed
  · rfl

theorem target_added {text : List Char} : (h.added taking text).1.target = h.target := by
  unfold added
  split
  · exact target_flushed
  · rfl

theorem flushed_of_all (hall : ∀ turn, taking turn = .all) : (h.flushed taking).2 = false := by
  unfold flushed
  split
  · rfl
  · rw [hall]
    rfl

theorem added_of_all {text : List Char} (hall : ∀ turn, taking turn = .all) :
    (h.added taking text).2 = false := by
  unfold added
  split
  · exact flushed_of_all hall
  · rfl

end Handle

namespace Act
variable {σ : Type} {k : Sink} {s : Scene σ} {id : Nat} {name : String} {h : Handle}

/-- How it ends to pass something on, where it may be refused. -/
def passedOn (k : Sink) (isRefused : Bool) : Except Failure Unit :=
  if isRefused then .error (.sink k .refused) else .ok ()

private theorem flush_eq (hid : s.world.handle? id = some h) (name : String) :
    let taking := s.world.taking (.opened id name)
    ∃ files, flush (.opened id name) s = (passedOn (.opened id name) (h.flushed taking).2,
        ⟨{ s.world with files }.setHandle id (h.flushed taking).1, s.own⟩) ∧
      ∀ p, h.target ≠ .file p → files.content? p = s.world.files.content? p := by
  dsimp only
  by_cases hsize : h.heldSize = 0
  · have hsame : s.world.setHandle id h = s.world := by
      obtain ⟨hlt, hget⟩ := List.getElem?_eq_some_iff.1 (Option.filter_eq_some_iff.1 hid).1
      rw [World.setHandle, ← hget, List.set_getElem_self]
    refine ⟨s.world.files, ?_, fun _ _ => rfl⟩
    rw [Handle.flushed, if_pos hsize]
    show flush (.opened id name) s = (.ok (), ⟨s.world.setHandle id h, s.own⟩)
    rw [hsame]
    simp [flush, bind_apply, world, hid, hsize, pure_apply]
  · refine ⟨h.passOn ((s.world.taking (.opened id name) h.turns).count h.heldSize) s.world.files, ?_,
      fun p hp => Handle.content?_passOn hp⟩
    rw [Handle.flushed, if_neg hsize]
    simp only [flush, bind_apply, world, hid, ne_eq, hsize, not_false_eq_true, if_true, passOn, modifyWorld,
      passedOn]
    split <;> rfl

private theorem write_eq (hid : s.world.handle? id = some h) (name : String) (text : List Char) :
    let taking := s.world.taking (.opened id name)
    ∃ files, write (.opened id name) text s = (passedOn (.opened id name) (h.added taking text).2,
        ⟨{ s.world with
            files
            past := .wrote (.opened id name) (String.ofList text) :: s.world.past
          }.setHandle id (h.added taking text).1, s.own⟩) ∧
      ∀ p, h.target ≠ .file p → files.content? p = s.world.files.content? p := by
  dsimp only
  let g := h.hold (Text.utf8 text)
  let w : World := { s.world.setHandle id g with
    past := .wrote (.opened id name) (String.ofList text) :: s.world.past }
  have hw : w.handle? id = some g := World.handle?_setHandle hid rfl
  have hwrite : write (.opened id name) text s =
      (if g.isFull then flush (.opened id name) else pure () : Act σ Unit) ⟨w, s.own⟩ := by
    simp [write, bind_apply, world, hid, modifyWorld, note, w, g, World.setHandle]
  rw [hwrite, Handle.added]
  by_cases hfull : g.isFull
  · obtain ⟨files, hflush, hfiles⟩ := flush_eq (s := (⟨w, s.own⟩ : Scene σ)) hw name
    refine ⟨files, ?_, hfiles⟩
    rw [if_pos hfull, hflush, if_pos hfull]
    simp [World.setHandle, w, g]
  · exact ⟨s.world.files, by rw [if_neg hfull, if_neg hfull]; rfl, fun _ _ => rfl⟩

/-- What is left at the handle goes by the handle alone. -/
theorem flush_of_handle (hid : s.world.handle? id = some h) (name : String) :
    let flushed := h.flushed (s.world.taking (.opened id name))
    ∃ w, flush (.opened id name) s = (passedOn (.opened id name) flushed.2, ⟨w, s.own⟩) ∧
      World.Stays (.opened id name) s.world w ∧ w.past = s.world.past ∧ w.handle? id = some flushed.1 := by
  obtain ⟨files, hflush, hfiles⟩ := flush_eq hid name
  exact ⟨_, hflush, World.stays_setHandle hid Handle.isOpen_flushed Handle.target_flushed hfiles, rfl,
    World.handle?_setHandle (w := { s.world with files }) hid Handle.isOpen_flushed⟩

theorem write_of_handle (hid : s.world.handle? id = some h) (name : String) (text : List Char) :
    let added := h.added (s.world.taking (.opened id name)) text
    ∃ w, write (.opened id name) text s = (passedOn (.opened id name) added.2, ⟨w, s.own⟩) ∧
      World.Stays (.opened id name) s.world w ∧
      w.past = .wrote (.opened id name) (String.ofList text) :: s.world.past ∧
      w.handle? id = some added.1 := by
  obtain ⟨files, hwrite, hfiles⟩ := write_eq hid name text
  let past := .wrote (.opened id name) (String.ofList text) :: s.world.past
  exact ⟨_, hwrite,
    (World.stays_setHandle hid Handle.isOpen_added Handle.target_added hfiles).note past, rfl,
    World.handle?_setHandle (w := { s.world with files, past }) hid Handle.isOpen_added⟩

/-- What comes of passing something on to a sink: it goes well, or it is refused. -/
def PassesOn (w : World) (k : Sink) (r : Except Failure Unit) : Prop :=
  r = .ok () ∨ r = .error (.sink k .refused) ∧ w.Refuses k

theorem passesOn {w : World} {isRefused : Bool}
    (hall : (∀ turn, w.taking (.opened id name) turn = .all) → isRefused = false) :
    PassesOn w (.opened id name) (passedOn (.opened id name) isRefused) := by
  cases isRefused with
  | false => exact .inl rfl
  | true =>
    refine .inr ⟨rfl, name, ?_⟩
    exact Classical.byContradiction fun h => Bool.noConfusion (hall (by simpa using h))

theorem flush_of_isOpen (hk : s.world.IsOpen k) :
    ∃ r w, flush k s = (r, ⟨w, s.own⟩) ∧ PassesOn s.world k r ∧ World.Stays k s.world w ∧
      w.past = s.world.past := by
  cases k with
  | opened id name =>
    obtain ⟨h, hid⟩ := hk.exists_handle
    obtain ⟨w, hflush, hstays, hpast, -⟩ := flush_of_handle hid name
    exact ⟨_, w, hflush, passesOn Handle.flushed_of_all, hstays, hpast⟩
  | _ => exact ⟨_, s.world, rfl, .inl rfl, .refl _ _, rfl⟩

theorem flush_of_not_isOpen (hk : ¬ s.world.IsOpen k) : flush k s = (.error (.sink k .closed), s) := by
  cases k with
  | opened id name =>
    have hid := World.not_isOpen_iff.1 hk
    simp [flush, bind_apply, world, hid, fail]
  | _ => exact absurd trivial hk

/-- Text is written before any of it is passed on. -/
theorem write_of_isOpen (hk : s.world.IsOpen k) (text : List Char) :
    ∃ r w, write k text s = (r, ⟨w, s.own⟩) ∧ PassesOn s.world k r ∧ World.Stays k s.world w ∧
      w.past = .wrote k (String.ofList text) :: s.world.past := by
  cases k with
  | opened id name =>
    obtain ⟨h, hid⟩ := hk.exists_handle
    obtain ⟨w, hwrite, hstays, hpast, -⟩ := write_of_handle hid name text
    exact ⟨_, w, hwrite, passesOn Handle.added_of_all, hstays, hpast⟩
  | _ => exact ⟨_, _, rfl, .inl rfl, (World.Stays.refl _ _).note _, rfl⟩

theorem write_of_not_isOpen (hk : ¬ s.world.IsOpen k) (text : List Char) :
    write k text s = (.error (.sink k .closed), s) := by
  cases k with
  | opened id name =>
    have hid := World.not_isOpen_iff.1 hk
    simp [write, bind_apply, world, hid, fail]
  | _ => exact absurd trivial hk

theorem PassesOn.of_accepts {w : World} {r : Except Failure Unit} (h : PassesOn w k r) (hk : w.Accepts k) :
    r = .ok () := h.resolve_right fun hrefused => hk.not_refuses hrefused.2

theorem exists_flush (hk : s.world.Accepts k) :
    ∃ w, flush k s = (.ok (), ⟨w, s.own⟩) ∧ World.Stays k s.world w ∧ w.past = s.world.past := by
  obtain ⟨r, w, hflush, hr, h⟩ := flush_of_isOpen hk.isOpen
  obtain rfl := hr.of_accepts hk
  exact ⟨w, hflush, h⟩

theorem exists_write (hk : s.world.Accepts k) (text : List Char) :
    ∃ w, write k text s = (.ok (), ⟨w, s.own⟩) ∧ World.Stays k s.world w ∧
      w.past = .wrote k (String.ofList text) :: s.world.past := by
  obtain ⟨r, w, hwrite, hr, h⟩ := write_of_isOpen hk.isOpen text
  obtain rfl := hr.of_accepts hk
  exact ⟨w, hwrite, h⟩

/-- Text after text is written, in this order. -/
theorem exists_forM_write {β : Type} (hk : s.world.Accepts k) (f : β → List Char) (l : List β) :
    ∃ w, (l.forM fun b => write k (f b)) s = (.ok (), ⟨w, s.own⟩) ∧ World.Stays k s.world w ∧
      w.past = ((l.map fun b => String.ofList (f b)).map (.wrote k)).reverse ++ s.world.past := by
  induction l generalizing s with
  | nil => exact ⟨s.world, rfl, .refl k _, rfl⟩
  | cons b l ih =>
    obtain ⟨w₁, hwrite, hstays, hpast⟩ := exists_write hk (f b)
    obtain ⟨w, hwrites, hstays', hpast'⟩ := ih (s := ⟨w₁, s.own⟩) ((hstays.accepts_iff k).2 hk)
    refine ⟨w, ?_, hstays.trans hstays', ?_⟩
    · show (write k (f b) >>= fun _ => l.forM fun b => write k (f b)) s = _
      rw [bind_apply, hwrite]
      exact hwrites
    · rw [hpast', hpast, List.map_cons, List.map_cons, List.reverse_cons, List.append_assoc]
      rfl

/-- What is flushed goes through, or it fails by the sink. -/
theorem flush_cases (k : Sink) (s : Scene σ) :
    ∃ r w, flush k s = (r, ⟨w, s.own⟩) ∧ World.Stays k s.world w ∧ w.past = s.world.past ∧
      (r = .ok () ∨ ∃ fault, r = .error (.sink k fault) ∧ ¬ s.world.Accepts k) := by
  by_cases hk : s.world.IsOpen k
  · obtain ⟨r, w, hflush, hr, hstays, hpast⟩ := flush_of_isOpen hk
    exact ⟨r, w, hflush, hstays, hpast,
      hr.imp_right fun h => ⟨_, h.1, fun haccepts => haccepts.not_refuses h.2⟩⟩
  · exact ⟨_, s.world, flush_of_not_isOpen hk, .refl _ _, rfl,
      .inr ⟨_, rfl, fun haccepts => hk haccepts.isOpen⟩⟩

/-- Text is written, and passed on where there is enough of it; or that fails, and the text may have been
written all the same. -/
theorem write_cases (k : Sink) (text : List Char) (s : Scene σ) :
    ∃ r w, write k text s = (r, ⟨w, s.own⟩) ∧ World.Stays k s.world w ∧
      (r = .ok () ∧ w.past = .wrote k (String.ofList text) :: s.world.past ∨
        ∃ fault, r = .error (.sink k fault) ∧ ¬ s.world.Accepts k ∧
          (w.past = s.world.past ∨ w.past = .wrote k (String.ofList text) :: s.world.past)) := by
  by_cases hk : s.world.IsOpen k
  · obtain ⟨r, w, hwrite, hr, hstays, hpast⟩ := write_of_isOpen hk text
    refine ⟨r, w, hwrite, hstays, ?_⟩
    rcases hr with hr | ⟨hr, hrefuses⟩
    · exact .inl ⟨hr, hpast⟩
    · exact .inr ⟨_, hr, fun haccepts => haccepts.not_refuses hrefuses, .inr hpast⟩
  · exact ⟨_, s.world, write_of_not_isOpen hk text, .refl _ _,
      .inr ⟨_, rfl, fun haccepts => hk haccepts.isOpen, .inl rfl⟩⟩

end Act
end SqlConsole
